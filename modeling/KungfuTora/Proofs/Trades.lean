import KungfuTora.Proofs.Attribution

/-!
# Which trades are published

A trade carries no session ids; it is routed by its exchange number alone. So it is
published once an answer to its order or a return about it has reported the number, and
dropped before. Within one login session the reference of an order keeps leading to it,
since later references are larger.
-/

namespace KungfuTora

open TraderTora

section Session

variable {core : Core} {pre mid : List Event}

/-- Until the next login the session stays, also in the orders that are inserted. -/
theorem session_stays (core : Core) (pre : List Event) {mid : List Event}
    (hsession : ∀ e ∈ mid, loginOf e = none) :
    let s := (adapter core).exec pre
    let s' := (adapter core).exec (pre ++ mid)
    (s'.frontId = s.frontId ∧ s'.sessionId = s.sessionId) ∧
      ∀ w ∈ (adapter core).logFrom entries s mid,
        (w.frontId, w.sessionId) = (s.frontId, s.sessionId) := by
  intro s s'
  induction mid using List.reverseRecOn with
  | nil =>
    have hsame : s' = s := by simp [s, s']
    rw [hsame]
    exact ⟨⟨rfl, rfl⟩, by simp [Machine.logFrom]⟩
  | append_singleton mid e ih =>
    obtain ⟨⟨hfront, hsess⟩, hentries⟩ := ih fun d hd => hsession d (List.mem_append_left _ hd)
    generalize hs₁ : (adapter core).exec (pre ++ mid) = s₁ at *
    have hs' : s' = (step core s₁ e).1 := by
      simp only [s', ← List.append_assoc, Machine.exec_concat, hs₁]
      rfl
    obtain ⟨hfront', hsess', -⟩ :=
      step_noLogin core s₁ (hsession e (List.mem_append_right _ List.mem_cons_self))
    refine ⟨⟨?_, ?_⟩, ?_⟩
    · rw [hs', hfront', hfront]
    · rw [hs', hsess', hsess]
    · intro w hw
      rw [Machine.logFrom_concat, ← Machine.exec_append, hs₁, List.mem_append] at hw
      rcases hw with hw | hw
      · exact hentries w hw
      · obtain ⟨call, -, rfl⟩ := eq_of_mem_entries hw
        rw [hfront, hsess]

/-- Until the next login references only grow. -/
theorem orderRef_grows (hsession : ∀ e ∈ mid, loginOf e = none)
    (hlimit : RefsBelowLimit core (pre ++ mid)) :
    let s := (adapter core).exec pre
    s.orderRef.toInt ≤ ((adapter core).exec (pre ++ mid)).orderRef.toInt ∧
      ∀ w ∈ (adapter core).logFrom entries s mid, s.orderRef.toInt ≤ w.orderRef.toInt := by
  intro s
  induction mid using List.reverseRecOn with
  | nil =>
    rw [List.append_nil]
    exact ⟨Int.le_refl _, by simp [Machine.logFrom]⟩
  | append_singleton mid e ih =>
    rw [← List.append_assoc] at hlimit ⊢
    obtain ⟨hlimit, -, hlast⟩ := (Along.concat_iff _ e).mp hlimit
    obtain ⟨hle, hentries⟩ := ih (fun d hd => hsession d (List.mem_append_left _ hd)) hlimit
    generalize hs₁ : (adapter core).exec (pre ++ mid) = s₁ at *
    obtain ⟨-, -, href'⟩ :=
      step_noLogin core s₁ (hsession e (List.mem_append_right _ List.mem_cons_self))
    refine ⟨?_, ?_⟩
    · rw [Machine.exec_concat, hs₁]
      show s.orderRef.toInt ≤ (step core s₁ e).1.orderRef.toInt
      rw [href']
      by_cases htake : takesRef s₁ e = true
      · have hadd := toInt_add_one (hlast (by simp [sentRefs_eq, htake]))
        rw [if_pos htake]
        omega
      · rw [if_neg htake]
        exact hle
    · intro w hw
      rw [Machine.logFrom_concat, ← Machine.exec_append, hs₁, List.mem_append] at hw
      rcases hw with hw | hw
      · exact hentries w hw
      · obtain ⟨call, -, rfl⟩ := eq_of_mem_entries hw
        exact hle

/-- The orders of a run, split at one of its inserts. -/
theorem log_entries_insert (core : Core) (pre mid : List Event) (call : InsertCall) :
    (adapter core).log entries (pre ++ .insertOrder call :: mid) =
      (adapter core).log entries pre ++
        ⟨call, ((adapter core).exec pre).orderRef, ((adapter core).exec pre).frontId,
          ((adapter core).exec pre).sessionId⟩ ::
        (adapter core).logFrom entries ((adapter core).exec (pre ++ [.insertOrder call])) mid := by
  exact (adapter core).log_append_cons entries pre (.insertOrder call) mid

/-- Within the session of an insert, the later orders whose key is the order's are those with
its reference. -/
theorem later_key_iff {call : InsertCall} {s : TraderTora}
    (hs : (adapter core).exec pre = s) (hsession : ∀ e ∈ mid, loginOf e = none)
    (hrefs : RefsHashApart core (pre ++ .insertOrder call :: mid)) {v : Entry}
    (hv : v ∈ (adapter core).logFrom entries
      ((adapter core).exec (pre ++ [.insertOrder call])) mid) :
    (v.frontId, v.sessionId) = (s.frontId, s.sessionId) ∧
      (v.key core = getOrderRefKey core s.frontId s.sessionId s.orderRef ↔
        v.orderRef = s.orderRef) := by
  have hlog := log_entries_insert core pre mid call
  rw [hs] at hlog
  have hused : ∀ w ∈ (adapter core).log entries (pre ++ .insertOrder call :: mid),
      ((w.frontId, w.sessionId), w.orderRef) ∈
        (adapter core).log usedRefs (pre ++ .insertOrder call :: mid) :=
    fun w hw => used_of_entry hw
  have hv' := hused v (by rw [hlog]; exact List.mem_append_right _ (List.mem_cons_of_mem _ hv))
  have hw' := hused ⟨call, s.orderRef, s.frontId, s.sessionId⟩ (by rw [hlog]; simp)
  have hstays := (session_stays core (pre ++ [.insertOrder call]) hsession).2 v hv
  have hsame : (v.frontId, v.sessionId) = (s.frontId, s.sessionId) := by
    rw [hstays, Machine.exec_concat, hs]
    rfl
  refine ⟨hsame, ?_⟩
  constructor
  · intro hkey
    exact hrefs _ hv' _ hw' (getOrderRefKey_inj.mp hkey).2
  · intro href
    simp only [Prod.mk.injEq] at hsame
    rw [Entry.key, hsame.1, hsame.2, href]

/-- Until the next login the session is the one of the insert. -/
theorem session_of_insert (call : InsertCall) {s : TraderTora}
    (hs : (adapter core).exec pre = s) (hsession : ∀ e ∈ mid, loginOf e = none) :
    let s' := (adapter core).exec (pre ++ .insertOrder call :: mid)
    s'.frontId = s.frontId ∧ s'.sessionId = s.sessionId := by
  intro s'
  have hstays := (session_stays core (pre ++ [.insertOrder call]) hsession).1
  rw [← List.append_cons, Machine.exec_concat, hs] at hstays
  exact hstays

/-- Until the next login the session stays and the reference of an order leads to the
order. -/
theorem findOrderRef_of_session {call : InsertCall} {s : TraderTora}
    (hs : (adapter core).exec pre = s) (hsession : ∀ e ∈ mid, loginOf e = none)
    (hrefs : RefsHashApart core (pre ++ .insertOrder call :: mid))
    (hlimit : RefsBelowLimit core (pre ++ .insertOrder call :: mid)) :
    let s' := (adapter core).exec (pre ++ .insertOrder call :: mid)
    s'.frontId = s.frontId ∧ s'.sessionId = s.sessionId ∧
      s'.findOrderRef core s.orderRef = some call.input.orderId := by
  intro s'
  obtain ⟨hfront, hsess⟩ := session_of_insert call hs hsession
  refine ⟨hfront, hsess, ?_⟩
  have hlog := log_entries_insert core pre mid call
  rw [hs] at hlog
  have hfront' : s'.frontId = s.frontId := hfront
  have hsess' : s'.sessionId = s.sessionId := hsess
  unfold findOrderRef
  rw [hfront', hsess', inboundOrderRefs_eq, Store.ofWrites_map_eq_some_iff]
  refine ⟨_, _, _, hlog, by simp only [Entry.key], by simp only [Entry.orderId], ?_⟩
  -- later references are larger than the one that the insert took
  rw [List.append_cons] at hlimit
  have hadd : (s.orderRef + 1).toInt = s.orderRef.toInt + 1 := by
    have hinsert := ((Along.concat_iff pre (.insertOrder call)).mp hlimit.of_append).2.2
    rw [hs] at hinsert
    exact toInt_add_one (hinsert (by simp [sentRefs_eq, takesRef]))
  have hgrows := (orderRef_grows hsession hlimit).2
  intro v hv hkey
  have hle := hgrows v hv
  rw [Machine.exec_concat, hs] at hle
  change (s.orderRef + 1).toInt ≤ v.orderRef.toInt at hle
  rw [(later_key_iff hs hsession hrefs hv).2.mp hkey] at hle
  omega

/-- Until the next login a reference leads to the order if and only if the order is the last
one that was sent with it. -/
theorem findOrderRef_iff_lastSent {call : InsertCall}
    (hfresh : FreshOrderIds (pre ++ .insertOrder call :: mid))
    (hsession : ∀ e ∈ mid, loginOf e = none)
    (hrefs : RefsHashApart core (pre ++ .insertOrder call :: mid)) {orderRef : Int32}
    (hused : ∀ w ∈ (adapter core).log entries (pre ++ .insertOrder call :: mid),
      hashOrderRef core w.orderRef = hashOrderRef core orderRef → w.orderRef = orderRef) :
    let s' := (adapter core).exec (pre ++ .insertOrder call :: mid)
    s'.findOrderRef core orderRef = some call.input.orderId ↔
      LastSent core (pre ++ .insertOrder call :: mid) (s'.frontId, s'.sessionId, orderRef)
        call.input.orderId := by
  intro s'
  generalize hs : (adapter core).exec pre = s
  obtain ⟨hfront, hsess⟩ := session_of_insert call hs hsession
  have hlog := log_entries_insert core pre mid call
  rw [hs] at hlog
  have hnodup : (((adapter core).log entries pre ++ ⟨call, s.orderRef, s.frontId, s.sessionId⟩ ::
      (adapter core).logFrom entries ((adapter core).exec (pre ++ [.insertOrder call]))
        mid).map Entry.orderId).Nodup := by
    rw [← hlog, entries_orderIds]
    exact hfresh
  have hfront' : s'.frontId = s.frontId := hfront
  have hsess' : s'.sessionId = s.sessionId := hsess
  unfold findOrderRef LastSent
  rw [hfront', hsess', inboundOrderRefs_eq, Store.ofWrites_map_eq_some_iff]
  by_cases href : orderRef = s.orderRef
  · rw [href, hlog]
    refine (Store.lastOf_iff_of_nodup hnodup).trans (Iff.trans ?_
      (Store.lastOf_iff_of_nodup hnodup).symm)
    refine forall₂_congr fun v hv => not_congr ?_
    obtain ⟨hsame, hkey⟩ := later_key_iff hs hsession hrefs hv
    simp only [Prod.mk.injEq] at hsame
    refine hkey.trans ?_
    simp only [Entry.triple, Prod.mk.injEq, hsame, true_and]
  · -- with another reference the order was not sent
    have hentry : ∀ w ∈ (adapter core).log entries (pre ++ .insertOrder call :: mid),
        w.orderId = call.input.orderId → w.orderRef = s.orderRef := by
      intro w hw hid
      have hown : (⟨call, s.orderRef, s.frontId, s.sessionId⟩ : Entry) ∈
          (adapter core).log entries (pre ++ .insertOrder call :: mid) := by
        rw [hlog]
        simp
      rw [entry_eq_of_orderId hfresh w hw _ hown hid]
    refine iff_of_false ?_ ?_
    · rintro ⟨before, w, after, hws, hkey, hid, -⟩
      have hw : w ∈ (adapter core).log entries (pre ++ .insertOrder call :: mid) := by simp [hws]
      have hsame := hused w hw (getOrderRefKey_inj.mp hkey).2
      exact href (hsame.symm.trans (hentry w hw hid))
    · rintro ⟨before, w, after, hws, htriple, hid, -⟩
      have hw : w ∈ (adapter core).log entries (pre ++ .insertOrder call :: mid) := by simp [hws]
      simp only [Entry.triple, Prod.mk.injEq] at htriple
      exact href (htriple.2.2.symm.trans (hentry w hw hid))

end Session

/-! ## Published trades -/

/-- `e` reports, for the order that was sent with the triple, the exchange number: it is an
answer without error, or a return that says something and carries a number. -/
def ReportsNumber (triple : Int32 × Int32 × Int32)
    (number : TTORATstpExchangeIDType × CharBuf) : Event → Prop
  | .onRspOrderInsert field info =>
    isError info = false ∧ field.orderRef = triple.2.2 ∧
      (field.exchangeId, field.orderSysId) = number
  | .onRtnOrder field _ =>
    field.orderStatus ≠ .unknown ∧ field.orderSysId.strlen ≠ 0 ∧
      (field.frontId, field.sessionId, field.orderRef) = triple ∧
      (field.exchangeId, field.orderSysId) = number
  | _ => False

section Trades

variable {core : Core} {pre mid : List Event}

/-- A report of an order's number binds the number to the order. -/
theorem binding_of_report {es : List Event} {e : Event} {orderId : UInt64} {orderRef : Int32}
    {number : TTORATstpExchangeIDType × CharBuf} (hcore : core.KeepsOrderId)
    (hfind : ((adapter core).exec es).findOrderRef core orderRef = some orderId)
    (hreport : ReportsNumber (((adapter core).exec es).frontId,
      ((adapter core).exec es).sessionId, orderRef) number e) :
    ∃ b ∈ bindings core ((adapter core).exec es) e, b.number = number ∧ b.orderId = orderId := by
  have hknown : Known ((adapter core).exec es) orderId :=
    (adapter_integrity hcore es).refs _ _ hfind
  cases e with
  | onRspOrderInsert field info =>
    obtain ⟨herror, href, hnumber⟩ := hreport
    have hnumbered : numberedOrder core ((adapter core).exec es) field info = some orderId :=
      (numberedOrder_eq_some _ _ _ _ _).mpr ⟨herror, by rw [href]; exact hfind, hknown.2⟩
    simp only [bindings, hnumbered]
    exact ⟨_, List.mem_singleton.mpr rfl, hnumber, rfl⟩
  | onRtnOrder field now =>
    obtain ⟨hstatus, hlen, htriple, hnumber⟩ := hreport
    simp only [Prod.mk.injEq] at htriple
    have hreported : reportedOrder core ((adapter core).exec es) field = some orderId :=
      (reportedOrder_eq_some _ _ _ _).mpr
        ⟨Or.inl htriple.2.1, by rw [htriple.2.2]; exact hfind, hstatus, hknown.1⟩
    simp only [bindings, hreported, if_neg hlen]
    exact ⟨_, List.mem_singleton.mpr rfl, hnumber, rfl⟩
  | _ => simp [ReportsNumber] at hreport

/-- A number that has been bound to an order, and to it alone since some point of the run,
leads to the order. -/
theorem sysid_of_bound {es : List Event} {old new : List Binding} {key orderId : UInt64}
    (hlog : (adapter core).log (bindings core) es = old ++ new)
    (hbound : ∃ b ∈ new, b.key core = key ∧ b.orderId = orderId)
    (hall : ∀ b ∈ new, b.key core = key → b.orderId = orderId) :
    ((adapter core).exec es).inboundOrderSysids key = some orderId := by
  rw [inboundOrderSysids_eq, hlog, List.map_append]
  apply Store.ofWrites_append_of_forall
  · obtain ⟨b, hb, hkey, hid⟩ := hbound
    exact List.mem_map.mpr ⟨b, hb, by rw [hkey, hid]⟩
  · intro orderId' hmem
    obtain ⟨b, hb, heq⟩ := List.mem_map.mp hmem
    simp only [Prod.mk.injEq] at heq
    rw [← heq.2]
    exact hall b hb heq.1

/-- A binding of a run after an insert, with the event that makes it. -/
theorem binding_after_insert {call : InsertCall} {b : Binding}
    (hb : b ∈ (adapter core).logFrom (bindings core)
      ((adapter core).exec (pre ++ [.insertOrder call])) mid) :
    ∃ before e after, mid = before ++ e :: after ∧
      b ∈ bindings core ((adapter core).exec (pre ++ .insertOrder call :: before)) e := by
  rw [Machine.mem_logFrom] at hb
  obtain ⟨before, e, after, hmid, hstep⟩ := hb
  rw [Machine.execFrom_exec_concat] at hstep
  exact ⟨before, e, after, hmid, hstep⟩

/-- The event makes the binding. -/
theorem binding_of_step {call : InsertCall} {b : Binding} {before after : List Event} {e : Event}
    (hmid : mid = before ++ e :: after)
    (hb : b ∈ bindings core ((adapter core).exec (pre ++ .insertOrder call :: before)) e) :
    b ∈ (adapter core).logFrom (bindings core)
      ((adapter core).exec (pre ++ [.insertOrder call])) mid := by
  rw [Machine.mem_logFrom]
  exact ⟨before, e, after, hmid, by rw [Machine.execFrom_exec_concat]; exact hb⟩

end Trades

/-- Within the login session in which an order was inserted: once an answer to the order
or a return about it has reported an exchange number, every trade with that number is
published exactly once, under the order, however the callbacks are interleaved. The number
is the order's own: no other reference comes with it. -/
theorem trade_published_once (core : Core) (pre mid : List Event) (call : InsertCall)
    (field : TradeField) (frameUid : UInt64) (now : Int64) (hcore : core.KeepsOrderId)
    (hsession : ∀ e ∈ mid, loginOf e = none)
    (hrefs : RefsHashApart core (pre ++ .insertOrder call :: mid))
    (hnumbers : NumbersHashApart core
      (pre ++ .insertOrder call :: mid ++ [.onRtnTrade field frameUid now]))
    (hlimit : RefsBelowLimit core (pre ++ .insertOrder call :: mid))
    (hreported : ∃ e ∈ mid, ReportsNumber (((adapter core).exec pre).frontId,
      ((adapter core).exec pre).sessionId, ((adapter core).exec pre).orderRef)
      (field.exchangeId, field.orderSysId) e)
    (hown : ∀ e ∈ mid, ∀ report ∈ numberReport e,
      report.2 = (field.exchangeId, field.orderSysId) →
        report.1 = ((adapter core).exec pre).orderRef) :
    TradesUnder core ((adapter core).exec (pre ++ .insertOrder call :: mid)) field frameUid now
      call.input.orderId := by
  generalize hs : (adapter core).exec pre = s at hreported hown
  generalize hes : pre ++ .insertOrder call :: mid = es at hrefs hnumbers hlimit ⊢
  -- wherever the run stands between the insert and its end, the reference leads to the order
  have hbetween : ∀ before after, mid = before ++ after →
      let s' := (adapter core).exec (pre ++ .insertOrder call :: before)
      s'.frontId = s.frontId ∧ s'.sessionId = s.sessionId ∧
        s'.findOrderRef core s.orderRef = some call.input.orderId := by
    intro before after hmid
    have hsplit : es = (pre ++ .insertOrder call :: before) ++ after := by
      rw [← hes, hmid]
      simp
    rw [hsplit] at hrefs hlimit
    refine findOrderRef_of_session hs ?_ hrefs.of_append hlimit.of_append
    intro e he
    exact hsession e (by rw [hmid]; exact List.mem_append_left _ he)
  have hlog : (adapter core).log (bindings core) es =
      (adapter core).log (bindings core) pre ++ (adapter core).logFrom (bindings core)
        ((adapter core).exec (pre ++ [.insertOrder call])) mid := by
    rw [← hes]
    exact (adapter core).log_append_cons (bindings core) pre (.insertOrder call) mid
  apply ((adapter_integrity hcore es).tradesUnder_iff field frameUid now _).mpr
  refine sysid_of_bound hlog ?_ ?_
  · obtain ⟨e, he, hreport⟩ := hreported
    obtain ⟨before, after, hmid⟩ := List.append_of_mem he
    obtain ⟨hfront, hsess, hfind⟩ := hbetween before (e :: after) hmid
    rw [← hfront, ← hsess] at hreport
    obtain ⟨b, hb, hnumber, hid⟩ := binding_of_report hcore hfind hreport
    refine ⟨b, binding_of_step hmid hb, ?_, hid⟩
    rw [Binding.key]
    simp only [Binding.number, Prod.mk.injEq] at hnumber
    rw [hnumber.1, hnumber.2]
  · intro b hb hkey
    have hnumber : b.number = (field.exchangeId, field.orderSysId) :=
      number_of_key hnumbers rfl (by simp [usedNumbers])
        (by rw [hlog]; exact List.mem_append_right _ hb) hkey
    obtain ⟨before, e, after, hmid, hstep⟩ := binding_after_insert hb
    obtain ⟨hreport, hfind⟩ := bindings_spec hstep
    have href := hown e (by rw [hmid]; simp) _ hreport hnumber
    dsimp only at href
    rw [href, (hbetween before (e :: after) hmid).2.2] at hfind
    exact (Option.some.inj hfind).symm

/-- A trade that comes before anything has reported its number is dropped. -/
theorem early_trade_dropped :
    let pre := [sampleLogin 3 7 10]
    let call := InsertCall.sample 1 100
    let es := pre ++ [.insertOrder call]
    let field := TradeField.sample 11 66
    (RefsHashApart .sample es ∧
      NumbersHashApart .sample (es ++ [.onRtnTrade field 1 6, .onRtnOrder (.sample 3 7 11 66) 7])) ∧
      field.orderRef = ((adapter .sample).exec pre).orderRef ∧
      ¬ TradesUnder .sample ((adapter .sample).exec es) field 1 6 call.input.orderId := by
  intro pre call es field
  refine ⟨by decide, by decide, ?_⟩
  rintro ⟨dest, trade, houtputs, -⟩
  have hnothing : (step .sample ((adapter .sample).exec es) (.onRtnTrade field 1 6)).2 = [] := by
    decide
  rw [hnothing] at houtputs
  simp at houtputs

/-- The answer comes first, then another order's return, then the trade. -/
theorem trade_published_once_answered :
    let pre := [sampleLogin 3 7 10]
    let answer : InputOrderField :=
      { toToraOrderInput .sample (.sample 100) with orderRef := 11, orderSysId := sampleNumber 66 }
    let mid := [.onRspOrderInsert answer none, .insertOrder (.sample 2 101),
      .onRtnOrder (.sample 3 7 12 67) 5]
    TradesUnder .sample ((adapter .sample).exec (pre ++ .insertOrder (.sample 1 100) :: mid))
      (.sample 11 66) 1 6 100 := by
  intro pre answer mid
  exact trade_published_once .sample pre mid (.sample 1 100) (.sample 11 66) 1 6
    Core.sample_keepsOrderId (by decide) (by decide) (by decide) (by decide)
    ⟨_, List.mem_cons_self, by decide, by decide, by decide⟩ (by decide)

end KungfuTora
