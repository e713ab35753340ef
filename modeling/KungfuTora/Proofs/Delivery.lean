import Mathlib.Data.List.Nodup
import KungfuTora.Proofs.Isolation

/-!
# Returns that overtake the recording of their order

`insert_order` sets `inbound_order_refs_` as its last effect, long after the request has
left. A return that the vendor's thread delivers before that finds nothing. The index
is the store that the completed inserts write, so a return is published under its order
exactly when the insert has completed and no later insert took over the key.
-/

namespace KungfuTora

open TraderTora

/-- A write of `inbound_order_refs_`. -/
structure Registration where
  key : UInt64
  orderId : UInt64

/-- The registration that a tick makes: only the last effect of an insert does. -/
def registrations (core : Core) (g : Gateway) : Tick → List Registration
  | .event _ => []
  | .resume =>
    match g.inserting with
    | some ⟨call, orderRef, .inbound⟩ =>
      [⟨getOrderRefKey core g.trader.frontId g.trader.sessionId orderRef, call.input.orderId⟩]
    | _ => []

/-- The last order registered under the key is `orderId`. -/
def LastRegistered (core : Core) (ts : List Tick) (key orderId : UInt64) : Prop :=
  Store.LastOf ((gateway core).log (registrations core) ts) Registration.key key
    Registration.orderId orderId

section Registrations

variable {core : Core} {g : Gateway}

theorem gatewayStep_refs (t : Tick) :
    (gatewayStep core g t).1.trader.inboundOrderRefs =
      (registrations core g t).foldl (fun m w => m.set w.key w.orderId)
        g.trader.inboundOrderRefs := by
  have hstep := gatewayStep_ticks core g t
  generalize gatewayStep core g t = r at hstep ⊢
  cases hstep with
  | event he =>
    rename_i e
    have hnone : entries g.trader e = [] := by
      cases e <;> first | rfl | simp [insertedId] at he
    have hrefs := congrArg Routing.inboundOrderRefs (step_routing core g.trader e)
    dsimp only at hrefs
    rw [hnone] at hrefs
    exact hrefs
  | recordsInbound call orderRef hins => simp [registrations, hins, recordInbound]
  | journals call orderRef hins => simp [registrations, hins, journalInsert]
  | recordsOutbound call orderRef hins => simp [registrations, hins, recordOutbound]
  | idle hidle => simp [registrations, hidle]
  | _ => rfl

theorem gateway_refs_eq (core : Core) (ts : List Tick) :
    ((gateway core).exec ts).trader.inboundOrderRefs =
      Store.ofWrites (((gateway core).log (registrations core) ts).map fun w =>
        (w.key, w.orderId)) := by
  apply (gateway core).table_eq_ofWrites (fun g => g.trader.inboundOrderRefs)
  · rfl
  · intro g t
    exact gatewayStep_refs t

/-- The inserts of a run are the completed ones and the one under way. -/
theorem insertCalls_eq (core : Core) (ts : List Tick) :
    (insertCalls core ts).map (fun call => call.input.orderId) =
      ((gateway core).log (registrations core) ts).map Registration.orderId ++
        (((gateway core).exec ts).inserting.map fun ins => ins.call.input.orderId).toList := by
  induction ts using List.reverseRecOn with
  | nil => rfl
  | append_singleton ts t ih =>
    unfold insertCalls at ih ⊢
    rw [Machine.log_concat, Machine.log_concat, Machine.exec_concat, List.map_append, ih,
      List.map_append]
    generalize (gateway core).exec ts = g
    show _ = _ ++ ((gatewayStep core g t).1.inserting.map _).toList
    have hstep := gatewayStep_ticks core g t
    generalize gatewayStep core g t = r at hstep ⊢
    cases hstep with
    | event he =>
      rename_i e
      cases e with
      | insertOrder call => simp [insertedId] at he
      | _ => simp [beginsInsert, registrations]
    | begins call hidle => simp [beginsInsert, registrations, hidle]
    | busy call ins hins => simp [beginsInsert, registrations, hins]
    | idle hidle => simp [beginsInsert, registrations, hidle]
    | journals call orderRef hins => simp [beginsInsert, registrations, hins]
    | recordsOutbound call orderRef hins => simp [beginsInsert, registrations, hins]
    | recordsInbound call orderRef hins => simp [beginsInsert, registrations, hins]

end Registrations

/-! ## How far an insert has come -/

/-- How many effects of the insert under way the ticks carry out. -/
def resumes (ts : List Tick) : Nat :=
  ts.countP fun t => match t with
    | .resume => true
    | .event _ => false

theorem resumes_append (ts ts' : List Tick) : resumes (ts ++ ts') = resumes ts + resumes ts' :=
  List.countP_append

/-- The `n`-th resume of a list that has more than `n`. -/
theorem exists_resume {ts : List Tick} {n : Nat} (h : n < resumes ts) :
    ∃ before after, ts = before ++ .resume :: after ∧ resumes before = n := by
  induction ts using List.reverseRecOn with
  | nil => simp [resumes] at h
  | append_singleton ts t ih =>
    by_cases hn : n < resumes ts
    · obtain ⟨before, after, rfl, hcount⟩ := ih hn
      exact ⟨before, after ++ [t], by simp, hcount⟩
    · rw [resumes_append] at h
      cases t with
      | event e => exact absurd h hn
      | resume =>
        have hone : resumes [.resume] = 1 := rfl
        exact ⟨ts, [], rfl, by omega⟩

/-- The effect that comes after the request and `n` more. -/
def stageAfter : Nat → InsertStage
  | 0 => .journal
  | 1 => .outbound
  | _ => .inbound

section Progress

variable {core : Core} {pre mid : List Tick}

/-- Without a login the session stays. -/
theorem session_of_noLogin (core : Core) (ts : List Tick) {ts' : List Tick}
    (h : ∀ e, .event e ∈ ts' → loginOf e = none) :
    ((gateway core).exec (ts ++ ts')).trader.frontId = ((gateway core).exec ts).trader.frontId ∧
      ((gateway core).exec (ts ++ ts')).trader.sessionId =
        ((gateway core).exec ts).trader.sessionId := by
  induction ts' using List.reverseRecOn with
  | nil => simp
  | append_singleton ts' t ih =>
    obtain ⟨hfront, hsession⟩ := ih fun e he => h e (List.mem_append_left _ he)
    rw [← List.append_assoc, Machine.exec_concat]
    generalize (gateway core).exec (ts ++ ts') = g at hfront hsession ⊢
    rw [← hfront, ← hsession]
    show (gatewayStep core g t).1.trader.frontId = _ ∧
      (gatewayStep core g t).1.trader.sessionId = _
    have hstep := gatewayStep_ticks core g t
    generalize gatewayStep core g t = r at hstep ⊢
    cases hstep with
    | event he =>
      have hlogin := step_noLogin core g.trader (h _ (List.mem_append_right _ List.mem_cons_self))
      exact ⟨hlogin.1, hlogin.2.1⟩
    | _ => exact ⟨rfl, rfl⟩

theorem noLogin_insert (call : InsertCall) {ts : List Tick}
    (h : ∀ e, .event e ∈ ts → loginOf e = none) :
    ∀ e, .event e ∈ .event (.insertOrder call) :: ts → loginOf e = none := by
  intro e he
  rcases List.mem_cons.mp he with he | he
  · rw [Tick.event.inj he]
    rfl
  · exact h e he

/-- As long as an insert has effects to come, it is the one under way and nothing is
registered. -/
theorem insert_under_way (core : Core) (call : InsertCall) {pre mid : List Tick}
    (hidle : ((gateway core).exec pre).inserting = none)
    (hmid : resumes mid < 3) :
    let g := (gateway core).exec pre
    let g₁ := (gateway core).exec (pre ++ [.event (.insertOrder call)])
    ((gateway core).execFrom g₁ mid).inserting =
        some ⟨call, g.trader.orderRef, stageAfter (resumes mid)⟩ ∧
      (gateway core).logFrom (registrations core) g₁ mid = [] := by
  intro g g₁
  have hg₁ : g₁ = ⟨(sendInsert core call g.trader).1,
      some ⟨call, g.trader.orderRef, .journal⟩⟩ := by
    simp only [g₁, Machine.exec_concat]
    show (gatewayStep core g (.event (.insertOrder call))).1 = _
    simp only [gatewayStep, hidle, g]
  induction mid using List.reverseRecOn with
  | nil =>
    rw [hg₁]
    exact ⟨rfl, rfl⟩
  | append_singleton mid t ih =>
    rw [resumes_append] at hmid
    obtain ⟨hins, hnone⟩ := ih (by omega)
    rw [Machine.execFrom_append, Machine.logFrom_append, hnone]
    generalize (gateway core).execFrom g₁ mid = g' at hins ⊢
    show (gatewayStep core g' t).1.inserting = _ ∧ [] ++ (registrations core g' t ++ []) = []
    have hstep := gatewayStep_ticks core g' t
    generalize gatewayStep core g' t = r at hstep ⊢
    have hresume : resumes [.resume] = 1 := rfl
    cases hstep with
    | event he => exact ⟨by rw [resumes_append]; exact hins, rfl⟩
    | begins call' hidle' => simp [hidle'] at hins
    | busy call' ins hins' => exact ⟨by rw [resumes_append]; exact hins, rfl⟩
    | idle hidle' => simp [hidle'] at hins
    | journals call' orderRef hins' =>
      rw [hins'] at hins
      have hzero : resumes mid = 0 := by
        by_contra hne
        have hone : resumes mid = 1 := by omega
        simp [hone, stageAfter] at hins
      simp only [hzero, stageAfter, Option.some.injEq, Inserting.mk.injEq] at hins
      simp [registrations, hins', resumes_append, hzero, hresume, stageAfter, hins.1, hins.2.1]
    | recordsOutbound call' orderRef hins' =>
      rw [hins'] at hins
      have hone : resumes mid = 1 := by
        by_contra hne
        have hzero : resumes mid = 0 := by omega
        simp [hzero, stageAfter] at hins
      simp only [hone, stageAfter, Option.some.injEq, Inserting.mk.injEq] at hins
      simp [registrations, hins', resumes_append, hone, hresume, stageAfter, hins.1, hins.2.1]
    | recordsInbound call' orderRef hins' =>
      rw [hins'] at hins
      have hfew : resumes mid = 0 ∨ resumes mid = 1 := by omega
      rcases hfew with hn | hn <;> simp [hn, stageAfter] at hins

/-- The fourth effect registers the order under the key of the request. -/
theorem registrations_of_completed (call : InsertCall) {mid₁ mid₂ : List Tick}
    (hidle : ((gateway core).exec pre).inserting = none)
    (hsession : ∀ e, .event e ∈ mid → loginOf e = none)
    (hmid : mid = mid₁ ++ .resume :: mid₂) (hcount : resumes mid₁ = 2) :
    let s := ((gateway core).exec pre).trader
    (gateway core).log (registrations core) (pre ++ .event (.insertOrder call) :: mid) =
      (gateway core).log (registrations core) pre ++
        ⟨getOrderRefKey core s.frontId s.sessionId s.orderRef, call.input.orderId⟩ ::
          (gateway core).logFrom (registrations core)
            ((gateway core).exec (pre ++ .event (.insertOrder call) :: (mid₁ ++ [.resume])))
            mid₂ := by
  intro s
  have hfew : resumes mid₁ < 3 := by omega
  obtain ⟨hins, hnone⟩ := insert_under_way core call hidle hfew
  rw [← Machine.exec_append, hcount] at hins
  have hlist : pre ++ .event (.insertOrder call) :: mid =
      ((pre ++ [.event (.insertOrder call)]) ++ mid₁) ++ [.resume] ++ mid₂ := by simp [hmid]
  have hlist' : pre ++ .event (.insertOrder call) :: (mid₁ ++ [.resume]) =
      ((pre ++ [.event (.insertOrder call)]) ++ mid₁) ++ [.resume] := by simp
  have hsession₁ : ∀ e, .event e ∈ mid₁ → loginOf e = none := by
    intro e he
    exact hsession e (by rw [hmid]; exact List.mem_append_left _ he)
  obtain ⟨hfront, hsess⟩ := session_of_noLogin core pre (noLogin_insert call hsession₁)
  rw [List.append_cons] at hfront hsess
  have hregistered : registrations core
      ((gateway core).exec ((pre ++ [.event (.insertOrder call)]) ++ mid₁)) .resume =
        [⟨getOrderRefKey core s.frontId s.sessionId s.orderRef, call.input.orderId⟩] := by
    simp only [registrations, hins, hfront, hsess, stageAfter, s]
  rw [hlist, hlist', Machine.log_append, Machine.log_concat, Machine.log_append _ _ (_ ++ [_]),
    Machine.log_concat, hnone, hregistered]
  simp [registrations]

end Progress

/-- A return for an order that was handed to `ReqOrderInsert`, delivered without a login in
between, is published under the order exactly when the order is the last one registered
under its key. With distinct order ids this says that the insert has carried out its
fourth effect and that no order registered since then has the same key. -/
theorem return_published_iff_registered (core : Core) (pre mid : List Tick) (call : InsertCall)
    (field : OrderField) (now : Int64) (hcore : core.KeepsOrderId)
    (hidle : ((gateway core).exec pre).inserting = none)
    (hsession : ∀ e, .event e ∈ mid → loginOf e = none)
    (hfront : field.frontId = ((gateway core).exec pre).trader.frontId)
    (hsess : field.sessionId = ((gateway core).exec pre).trader.sessionId)
    (href : field.orderRef = ((gateway core).exec pre).trader.orderRef)
    (hstatus : field.orderStatus ≠ .unknown) :
    let ts := pre ++ .event (.insertOrder call) :: mid
    let key := getOrderRefKey core field.frontId field.sessionId field.orderRef
    let published :=
      PublishesUnder core ((gateway core).exec ts).trader field now call.input.orderId
    (published ↔ LastRegistered core ts key call.input.orderId) ∧
    (((insertCalls core ts).map fun call => call.input.orderId).Nodup →
      (published ↔ ∃ mid₁ mid₂, mid = mid₁ ++ .resume :: mid₂ ∧ resumes mid₁ = 2 ∧
        ∀ w ∈ (gateway core).logFrom (registrations core)
          ((gateway core).exec (pre ++ .event (.insertOrder call) :: (mid₁ ++ [.resume]))) mid₂,
          w.key ≠ key)) := by
  intro ts key published
  have hgeneral : published ↔ LastRegistered core ts key call.input.orderId := by
    obtain ⟨hfront', hsess'⟩ := session_of_noLogin core pre (noLogin_insert call hsession)
    have hpass : field.sessionId = ((gateway core).exec ts).trader.sessionId ∨
        field.frontId = ((gateway core).exec ts).trader.frontId :=
      Or.inl (hsess.trans hsess'.symm)
    have hkey : getOrderRefKey core ((gateway core).exec ts).trader.frontId
        ((gateway core).exec ts).trader.sessionId field.orderRef = key := by
      rw [hfront', hsess', ← hfront, ← hsess]
    rw [LastRegistered, ← Store.ofWrites_map_eq_some_iff, ← gateway_refs_eq, ← hkey]
    refine Iff.trans ((gateway_integrity hcore ts).publishesUnder_iff field now _) ?_
    constructor
    · rintro ⟨-, hfind, -⟩
      exact hfind
    · intro hfind
      exact ⟨hpass, hfind, hstatus⟩
  refine ⟨hgeneral, ?_⟩
  intro hfresh
  rw [hgeneral]
  have hkey : key = getOrderRefKey core ((gateway core).exec pre).trader.frontId
      ((gateway core).exec pre).trader.sessionId ((gateway core).exec pre).trader.orderRef := by
    simp only [key, hfront, hsess, href]
  rw [insertCalls_eq] at hfresh
  have hnodup := hfresh.of_append_left
  unfold LastRegistered
  constructor
  · intro hlast
    have hcount : 2 < resumes mid := by
      by_contra hfew
      -- the insert is still under way, so its id is registered nowhere
      obtain ⟨hins, -⟩ := insert_under_way core call hidle (by omega : resumes mid < 3)
      rw [← Machine.exec_append, ← List.append_cons] at hins
      obtain ⟨before, w, after, hlog, -, hid, -⟩ := hlast
      rw [hins, hlog, List.nodup_append] at hfresh
      exact hfresh.2.2 w.orderId (by simp) call.input.orderId (by simp) hid
    obtain ⟨mid₁, mid₂, hmid, htwo⟩ := exists_resume hcount
    have hlog := registrations_of_completed call hidle hsession hmid htwo
    rw [hlog] at hnodup hlast
    rw [hkey] at hlast ⊢
    exact ⟨mid₁, mid₂, hmid, htwo, (Store.lastOf_iff_of_nodup hnodup).mp hlast⟩
  · rintro ⟨mid₁, mid₂, hmid, htwo, hlater⟩
    have hlog := registrations_of_completed call hidle hsession hmid htwo
    rw [hlog] at hnodup ⊢
    rw [hkey] at hlater ⊢
    exact (Store.lastOf_iff_of_nodup hnodup).mpr hlater

/-- The return comes in right after the request has left: it is dropped. -/
theorem return_dropped_in_window :
    let pre := [.event (sampleLogin 3 7 10)]
    let call := InsertCall.sample 1 100
    let s := ((gateway .sample).exec pre).trader
    let field := OrderField.sample 3 7 11 66
    let ts := pre ++ [.event (.insertOrder call)]
    ((field.frontId, field.sessionId, field.orderRef) = (s.frontId, s.sessionId, s.orderRef) ∧
      field.orderStatus ≠ .unknown) ∧
      (gateway .sample).outputs ts (.event (.onRtnOrder field 5)) = [] ∧
      ¬ PublishesUnder .sample ((gateway .sample).exec ts).trader field 5 call.input.orderId := by
  intro pre call s field ts
  have hnothing : (gateway .sample).outputs ts (.event (.onRtnOrder field 5)) = [] := by decide
  refine ⟨by decide, hnothing, ?_⟩
  rintro ⟨dest, order, houtputs, -⟩
  have hnone := houtputs.symm.trans hnothing
  simp at hnone

/-- The return comes in after the insert has completed. -/
theorem return_published_after_window :
    let pre := [.event (sampleLogin 3 7 10)]
    let mid := [.resume, .resume, .resume]
    let ts := pre ++ .event (.insertOrder (.sample 1 100)) :: mid
    PublishesUnder .sample ((gateway .sample).exec ts).trader (.sample 3 7 11 66) 5 100 ↔
      LastRegistered .sample ts (getOrderRefKey .sample 3 7 11) 100 := by
  intro pre mid ts
  exact (return_published_iff_registered .sample pre mid (.sample 1 100) (.sample 3 7 11 66) 5
    Core.sample_keepsOrderId rfl (by simp [mid]) rfl rfl rfl (by decide)).1

end KungfuTora
