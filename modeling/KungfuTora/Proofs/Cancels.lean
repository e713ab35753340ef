import KungfuTora.Proofs.Interleaving

/-!
# What becomes of a cancel

`cancel_order` can be refused on the spot, by the adapter or by the vendor's API, and later
by the counter. Only the refusal by the API is reported: the other three are logged. An
insert that fails leaves the same record as one that succeeds, so a cancel of its order
goes out to a counter that never saw the order.
-/

namespace KungfuTora

open TraderTora

/-! ## Refused cancels -/

/-- The record is addressed to the source of the cancel and names its action. -/
def ReportsCancel (call : CancelCall) : Output → Prop
  | .orderActionError dest _ error =>
    dest = call.source ∧ error.orderId = call.action.orderId ∧
      error.orderActionId = call.action.orderActionId
  | _ => False

/-- The answer echoes the references of the request. -/
def AnswersRequest (req field : InputOrderActionField) : Prop :=
  field.orderActionRef = req.orderActionRef ∧ field.orderRef = req.orderRef ∧
    field.frontId = req.frontId ∧ field.sessionId = req.sessionId

/-- The counter answers the request with an error. -/
def RefusesRequest (req : InputOrderActionField) : Event → Prop
  | .onRspOrderAction field info => isError info = true ∧ AnswersRequest req field
  | .onErrRtnOrderAction field info => isError info = true ∧ AnswersRequest req field
  | _ => False

/-- The cancel that comes after `before`, and before `after`, is refused: the adapter does
not know the order, or the API does not take the request, or the counter answers it with
an error. -/
def CancelRefused (core : Core) (before : List Event) (call : CancelCall) (after : List Event) :
    Prop :=
  ((adapter core).exec before).outboundOrders call.action.orderId = none ∨
    ∃ req rid, .reqOrderAction req rid ∈ (adapter core).outputs before (.cancelOrder call) ∧
      (call.ret ≠ 0 ∨ ∃ e ∈ after, RefusesRequest req e)

/-- A report of the cancel is written by `cancel_order` or by a later callback. What another
`cancel_order` call writes is about its own action. -/
def CancelReported (core : Core) (before : List Event) (call : CancelCall) (after : List Event) :
    Prop :=
  (∃ o ∈ (adapter core).outputs before (.cancelOrder call), ReportsCancel call o) ∨
    ∃ mid e rest, after = mid ++ e :: rest ∧ (∀ other, e ≠ .cancelOrder other) ∧
      ∃ o ∈ (adapter core).outputs (before ++ .cancelOrder call :: mid) e, ReportsCancel call o

section Reported

variable {core : Core} {before after : List Event} {call : CancelCall}

/-- No other call than `cancel_order` reports a cancel. -/
theorem not_reportsCancel {s : TraderTora} {e : Event} (he : ∀ other, e ≠ .cancelOrder other)
    {o : Output} (ho : o ∈ (step core s e).2) : ¬ ReportsCancel call o := by
  intro hreport
  cases step_emits core s ho with
  | session h => cases o <;> simp [Output.isSession, ReportsCancel] at h hreport
  | cancelled other => exact absurd rfl (he other)
  | notCancelled other => exact absurd rfl (he other)
  | _ => exact hreport

/-- A cancel is reported exactly when the API does not take its request. -/
theorem cancelReported_iff :
    CancelReported core before call after ↔
      (∃ record, ((adapter core).exec before).outboundOrders call.action.orderId = some record) ∧
        call.ret ≠ 0 := by
  have houtputs := cancelOrder_outputs core ((adapter core).exec before) call
  constructor
  · rintro (⟨o, ho, hreport⟩ | ⟨mid, e, rest, -, he, o, ho, hreport⟩)
    · change o ∈ (cancelOrder core call _).2 at ho
      rw [houtputs] at ho
      cases hrecord : ((adapter core).exec before).outboundOrders call.action.orderId with
      | none =>
        simp only [hrecord, List.mem_singleton] at ho
        rw [ho] at hreport
        exact hreport.elim
      | some record =>
        refine ⟨⟨record, rfl⟩, ?_⟩
        intro hret
        simp only [hrecord, hret, if_true, List.mem_cons, List.not_mem_nil, or_false] at ho
        rcases ho with rfl | rfl
        · exact hreport
        · exact hreport
    · exact absurd hreport (not_reportsCancel he ho)
  · rintro ⟨⟨record, hrecord⟩, hret⟩
    left
    refine ⟨.orderActionError call.source call.genTime
      ⟨call.action.orderId, call.action.orderActionId, call.ret⟩, ?_, rfl, rfl, rfl⟩
    show _ ∈ (cancelOrder core call _).2
    rw [houtputs]
    simp [hrecord, hret]

theorem cancelRefused_iff :
    CancelRefused core before call after ↔
      ∀ record, ((adapter core).exec before).outboundOrders call.action.orderId = some record →
        call.ret ≠ 0 ∨
          ∃ e ∈ after, RefusesRequest
            (cancelRequest record ((adapter core).exec before).orderRef) e := by
  have hrequest := fun req rid =>
    cancelOrder_request core ((adapter core).exec before) call req rid
  constructor
  · rintro (hnone | ⟨req, rid, hreq, hrefused⟩) record hrecord
    · rw [hnone] at hrecord
      cases hrecord
    · obtain ⟨record', hrecord', rfl, -⟩ := (hrequest req rid).mp hreq
      rw [hrecord] at hrecord'
      rw [Option.some.inj hrecord']
      exact hrefused
  · intro h
    cases hrecord : ((adapter core).exec before).outboundOrders call.action.orderId with
    | none => exact Or.inl hrecord
    | some record =>
      exact Or.inr ⟨_, _, (hrequest _ _).mpr ⟨record, hrecord, rfl, rfl⟩, h record hrecord⟩

end Reported

/-- In every run, a cancel is reported if and only if it is refused exactly when the adapter
knows the order and, unless the API turns the request down, the counter does not answer it
with an error. -/
theorem refused_cancel_reported_iff (core : Core) (before : List Event) (call : CancelCall)
    (after : List Event) :
    ((CancelRefused core before call after → CancelReported core before call after) ∧
      (¬ CancelRefused core before call after → ¬ CancelReported core before call after)) ↔
      ∃ record, ((adapter core).exec before).outboundOrders call.action.orderId = some record ∧
        (call.ret ≠ 0 ∨
          ∀ e ∈ after, ¬ RefusesRequest
            (cancelRequest record ((adapter core).exec before).orderRef) e) := by
  rw [cancelReported_iff, cancelRefused_iff]
  cases hrecord : ((adapter core).exec before).outboundOrders call.action.orderId with
  | none => simp
  | some record =>
    by_cases hret : call.ret = 0
    · simp [hret]
    · simp [hret]

/-- The order is unknown; the answer brings an error; the error return does. -/
theorem refused_cancel_unreported :
    let login := sampleLogin 3 7 10
    let insert := Event.insertOrder (.sample 1 100)
    let field := cancelRequest (outboundRecord (.sample 1 100) 11 3 7) 12
    let error : Option RspInfoField := some ⟨25, []⟩
    (CancelRefused .sample [login] (.sample 100) [] ∧
      ¬ CancelReported .sample [login] (.sample 100) []) ∧
    (CancelRefused .sample [login, insert] (.sample 100) [.onRspOrderAction field error] ∧
      ¬ CancelReported .sample [login, insert] (.sample 100) [.onRspOrderAction field error]) ∧
    CancelRefused .sample [login, insert] (.sample 100) [.onErrRtnOrderAction field error] ∧
      ¬ CancelReported .sample [login, insert] (.sample 100)
        [.onErrRtnOrderAction field error] := by
  intro login insert field error
  have hfield : ∀ record,
      ((adapter .sample).exec [login, insert]).outboundOrders 100 = some record →
      cancelRequest record ((adapter .sample).exec [login, insert]).orderRef = field := by
    intro record hrecord
    rw [← Option.some.inj hrecord]
    rfl
  have hunreported : ∀ before after, ¬ CancelReported .sample before (.sample 100) after := by
    intro before after
    rw [cancelReported_iff]
    rintro ⟨-, hret⟩
    exact hret rfl
  have hrefused : ∀ e, RefusesRequest field e →
      CancelRefused .sample [login, insert] (.sample 100) [e] := by
    intro e he
    rw [cancelRefused_iff]
    intro record hrecord
    rw [hfield record hrecord]
    exact Or.inr ⟨e, List.mem_singleton.mpr rfl, he⟩
  have hanswers : AnswersRequest field field := ⟨rfl, rfl, rfl, rfl⟩
  refine ⟨⟨Or.inl rfl, ?_⟩, ⟨?_, ?_⟩, ?_, ?_⟩
  · exact hunreported _ _
  · exact hrefused _ ⟨rfl, hanswers⟩
  · exact hunreported _ _
  · exact hrefused _ ⟨rfl, hanswers⟩
  · exact hunreported _ _

/-! ## Cancels of orders that were never taken -/

/-- Once the API has turned an order down, a cancel of it is refused without a request. -/
def FailedInsertsDead (core : Core) (es : List Event) : Prop :=
  ∀ before call mid cancel after,
    es = before ++ .insertOrder call :: mid ++ .cancelOrder cancel :: after →
    call.ret ≠ 0 → cancel.action.orderId = call.input.orderId →
    (adapter core).outputs (before ++ .insertOrder call :: mid) (.cancelOrder cancel) =
      [.returned false]

section Failed

variable {core : Core}

/-- A run never loses the record of an order. -/
theorem outbound_isSome_append {es : List Event} (es' : List Event) {k : UInt64}
    (h : (((adapter core).exec es).outboundOrders k).isSome) :
    (((adapter core).exec (es ++ es')).outboundOrders k).isSome := by
  induction es' using List.reverseRecOn with
  | nil =>
    rw [List.append_nil]
    exact h
  | append_singleton es' e ih =>
    rw [← List.append_assoc, Machine.exec_concat]
    exact outbound_isSome_step core _ e ih

/-- Whatever became of an insert, a later cancel of its order sends a request. -/
theorem cancel_sent_after_insert (core : Core) (before : List Event) (call : InsertCall)
    (mid : List Event) (cancel : CancelCall) (hid : cancel.action.orderId = call.input.orderId) :
    ∃ req rid, .reqOrderAction req rid ∈
      (adapter core).outputs (before ++ .insertOrder call :: mid) (.cancelOrder cancel) := by
  have hinsert : (((adapter core).exec (before ++ [.insertOrder call])).outboundOrders
      cancel.action.orderId).isSome := by
    rw [Machine.exec_concat]
    exact (Store.set_isSome _ _ _ _).mpr (Or.inl hid)
  have hlater := outbound_isSome_append mid hinsert
  rw [← List.append_cons] at hlater
  obtain ⟨record, hrecord⟩ := Option.isSome_iff_exists.mp hlater
  exact ⟨_, _, (cancelOrder_request core _ cancel _ _).mpr ⟨record, hrecord, rfl, rfl⟩⟩

end Failed

/-- A failed insert leaves nothing to cancel behind exactly in the runs in which nobody tries
to cancel it. -/
theorem failed_inserts_dead_iff (core : Core) (es : List Event) :
    FailedInsertsDead core es ↔
      ∀ before call mid cancel after,
        es = before ++ .insertOrder call :: mid ++ .cancelOrder cancel :: after →
        call.ret ≠ 0 → cancel.action.orderId ≠ call.input.orderId := by
  constructor
  · intro hdead before call mid cancel after hes hret hid
    obtain ⟨req, rid, hreq⟩ := cancel_sent_after_insert core before call mid cancel hid
    rw [hdead before call mid cancel after hes hret hid] at hreq
    simp at hreq
  · intro hnone before call mid cancel after hes hret hid
    exact absurd hid (hnone before call mid cancel after hes hret)

/-- The API turns the order down, another order is inserted, and the cancel of the first one
goes out to the counter. -/
theorem failed_insert_cancelled :
    let failed : InsertCall := { InsertCall.sample 1 100 with ret := -3 }
    let es := [sampleLogin 3 7 10, .insertOrder failed, .insertOrder (.sample 2 101),
      .cancelOrder (.sample 100)]
    ¬ FailedInsertsDead .sample es := by
  intro failed es h
  have houtputs := h [sampleLogin 3 7 10] failed [.insertOrder (.sample 2 101)] (.sample 100) []
    rfl (by decide) rfl
  exact absurd houtputs (by decide)

end KungfuTora
