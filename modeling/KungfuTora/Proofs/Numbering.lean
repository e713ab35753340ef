import KungfuTora.Misc.Counter
import KungfuTora.Proofs.Noninterference
import KungfuTora.Proofs.References

/-!
# Request ids and references over interleaved runs

Kungfu's thread and the vendor's both number requests from one counter, and inserts and
cancels take their references from another, which a login resets. Whatever comes in between
the effects of an insert, the numbers follow on one another without a gap and without a
repetition.
-/

namespace KungfuTora

open TraderTora

/-- The `nRequestID` of a request. -/
def Output.requestId : Output → Option Int32
  | .reqUserLogin _ nRequestID | .reqQryShareholderAccount _ nRequestID
  | .reqQrySecurity nRequestID | .reqQryPosition _ nRequestID
  | .reqQryTradingAccount _ _ nRequestID | .reqOrderInsert _ nRequestID
  | .reqOrderAction _ nRequestID => some nRequestID
  | _ => none

def requestIds (core : Core) (g : Gateway) (t : Tick) : List Int32 :=
  (gatewayStep core g t).2.filterMap Output.requestId

def takenRefs (core : Core) (g : Gateway) (t : Tick) : List Int32 :=
  (gatewayStep core g t).2.filterMap Output.takenRef

/-- What `++` makes of a counter. -/
def increment (n : Int32) : Int32 := n + 1

theorem increment_iterate (x : Int32) (n : Nat) : increment^[n] x = x + Int32.ofNat n := by
  induction n with
  | zero => simp
  | succ n ih =>
    rw [Function.iterate_succ_apply', ih, increment, Int32.ofNat_add, Int32.add_assoc]
    rfl

section Requests

variable (core : Core) (s : TraderTora)

/-- A step makes no request, or makes one and numbers it. -/
def Numbers (r : Effect) : Prop :=
  (r.2.filterMap Output.requestId = [] ∧ r.1.rid = s.rid) ∨
    (r.2.filterMap Output.requestId = [s.rid + 1] ∧ r.1.rid = s.rid + 1)

theorem return_numbers (a : Return) (r : Readings) : Numbers s (step core s (a.event r)) := by
  obtain ⟨hstate, houtputs⟩ := return_spec core s a r
  refine Or.inl ⟨?_, by rw [hstate]; rfl⟩
  refine List.filterMap_eq_nil_iff.mpr fun o ho => ?_
  have hreport := houtputs o ho
  cases o <;> first | rfl | simp [Output.isReport] at hreport

theorem positionRecords_requestIds (position : Option PositionField) (now : Int64)
    (bIsLast : Bool) :
    (s.positionRecords core position now ++
      if bIsLast then [Output.positionEnd 0 now core.homeUid] else []).filterMap Output.requestId =
        [] := by
  rcases positionRecords_eq core s position now with h | ⟨_, h⟩ <;> rw [h] <;>
    cases bIsLast <;> rfl

theorem step_numbers {e : Event} (he : insertedId e = none) : Numbers s (step core s e) := by
  by_cases hreturn : e.isReturn = true
  · obtain ⟨a, r, rfl⟩ := Event.exists_return hreturn
    exact return_numbers core s a r
  · cases e with
    | onStart | onFrontDisconnected | onRspError | onRspOrderAction | onErrRtnOrderAction =>
      exact Or.inl ⟨rfl, rfl⟩
    | onFrontConnected ret =>
      dsimp only [step]
      unfold onFrontConnected login
      by_cases hret : ret ≠ 0
      · simp only [if_pos hret]
        exact Or.inr ⟨rfl, rfl⟩
      · simp only [if_neg hret]
        exact Or.inr ⟨rfl, rfl⟩
    | onRspUserLogin field info ret =>
      dsimp only [step]
      unfold onRspUserLogin
      cases isError info with
      | true => exact Or.inl ⟨rfl, rfl⟩
      | false =>
        cases field with
        | none => exact Or.inl ⟨rfl, rfl⟩
        | some login => exact Or.inr ⟨rfl, rfl⟩
    | onRspQryShareholderAccount account info bIsLast stored ret =>
      dsimp only [step]
      unfold onRspQryShareholderAccount
      cases isError info with
      | true => exact Or.inl ⟨rfl, rfl⟩
      | false =>
        cases bIsLast with
        | false => cases account <;> exact Or.inl ⟨rfl, rfl⟩
        | true =>
          cases stored with
          | true => cases account <;> exact Or.inl ⟨rfl, rfl⟩
          | false => cases account <;> exact Or.inr ⟨rfl, rfl⟩
    | onRspQrySecurity security info bIsLast frame =>
      left
      dsimp only [step]
      unfold onRspQrySecurity
      cases isError info with
      | true => exact ⟨rfl, rfl⟩
      | false =>
        rcases recordSecurity_eq core s security frame with h | ⟨_, h⟩ <;>
          simp only [Bool.false_eq_true, if_false, h] <;> cases bIsLast <;> exact ⟨rfl, rfl⟩
    | onRspQryTradingAccount account info now =>
      left
      dsimp only [step]
      rcases onRspQryTradingAccount_eq core s account info now with h | ⟨_, _, h⟩ <;> rw [h] <;>
        exact ⟨rfl, rfl⟩
    | onRspQryPosition position info bIsLast now =>
      left
      dsimp only [step]
      unfold onRspQryPosition
      cases isError info with
      | true => exact ⟨rfl, rfl⟩
      | false => exact ⟨positionRecords_requestIds core s position now bIsLast, rfl⟩
    | reqPosition ret =>
      dsimp only [step]
      unfold reqPosition
      by_cases hret : ret ≠ 0
      · simp only [if_pos hret]
        exact Or.inr ⟨rfl, rfl⟩
      · simp only [if_neg hret]
        exact Or.inr ⟨rfl, rfl⟩
    | reqAccount ret =>
      dsimp only [step]
      unfold reqAccount
      by_cases hret : ret ≠ 0
      · simp only [if_pos hret]
        exact Or.inr ⟨rfl, rfl⟩
      · simp only [if_neg hret]
        exact Or.inr ⟨rfl, rfl⟩
    | cancelOrder call =>
      dsimp only [step]
      rcases cancelOrder_eq core s call with ⟨-, h⟩ | ⟨_, _, -, h⟩
      · rw [h]
        exact Or.inl ⟨rfl, rfl⟩
      · rw [h]
        right
        dsimp only
        split <;> exact ⟨rfl, rfl⟩
    | insertOrder call => simp [insertedId] at he
    | onRspOrderInsert | onRtnOrder | onErrRtnOrderInsert | onRtnTrade =>
      exact absurd rfl hreturn

/-- A tick takes no request id or the next one. -/
theorem tick_counts_requests (g : Gateway) (t : Tick) :
    (gateway core).Counts (fun g => g.trader.rid) increment increment (requestIds core) g t := by
  have hstep := gatewayStep_ticks core g t
  unfold requestIds
  have hlog : ∀ r, gatewayStep core g t = r → Numbers g.trader (r.1.trader, r.2) →
      (gateway core).Counts (fun g => g.trader.rid) increment increment
        (fun g t => (gatewayStep core g t).2.filterMap Output.requestId) g t := by
    rintro r rfl (⟨hnone, hrid⟩ | ⟨hone, hrid⟩)
    · exact .none hnone hrid
    · exact .one hone hrid
  refine hlog _ rfl ?_
  generalize gatewayStep core g t = r at hstep ⊢
  cases hstep with
  | event he => exact step_numbers core g.trader he
  | begins call hidle => exact Or.inr ⟨rfl, rfl⟩
  | busy call ins hins => exact Or.inl ⟨rfl, rfl⟩
  | idle hidle => exact Or.inl ⟨rfl, rfl⟩
  | journals call orderRef hins => exact Or.inl ⟨rfl, rfl⟩
  | recordsOutbound call orderRef hins => exact Or.inl ⟨rfl, rfl⟩
  | recordsInbound call orderRef hins => exact Or.inl ⟨rfl, rfl⟩

/-- A tick takes no reference or the one that the counter stands at; only a login resets it. -/
theorem tick_counts_refs (g : Gateway) {t : Tick} (ht : ∀ e, t = .event e → loginOf e = none) :
    (gateway core).Counts (fun g => g.trader.orderRef) increment id (takenRefs core) g t := by
  have hstep := gatewayStep_ticks core g t
  unfold takenRefs
  have hlog : ∀ r, gatewayStep core g t = r →
      (r.2.filterMap Output.takenRef = [] ∧ r.1.trader.orderRef = g.trader.orderRef) ∨
        (r.2.filterMap Output.takenRef = [g.trader.orderRef] ∧
          r.1.trader.orderRef = g.trader.orderRef + 1) →
      (gateway core).Counts (fun g => g.trader.orderRef) increment id
        (fun g t => (gatewayStep core g t).2.filterMap Output.takenRef) g t := by
    rintro r rfl (⟨hnone, href⟩ | ⟨hone, href⟩)
    · exact .none hnone href
    · exact .one hone href
  refine hlog _ rfl ?_
  generalize gatewayStep core g t = r at hstep ⊢
  cases hstep with
  | @event e he =>
    have hrefs := congrArg (List.map Prod.snd) (sentRefs_eq core g.trader e)
    have href := (step_noLogin core g.trader (ht e rfl)).2.2
    unfold sentRefs at hrefs
    rw [List.map_map, show Prod.snd ∘ (fun r : Int32 => ((g.trader.frontId, g.trader.sessionId), r)) =
      id from rfl, List.map_id] at hrefs
    by_cases htakes : takesRef g.trader e = true
    · rw [if_pos htakes] at hrefs href
      exact Or.inr ⟨hrefs, href⟩
    · rw [if_neg htakes] at hrefs href
      exact Or.inl ⟨hrefs, href⟩
  | begins call hidle => exact Or.inr ⟨rfl, rfl⟩
  | busy call ins hins => exact Or.inl ⟨rfl, rfl⟩
  | idle hidle => exact Or.inl ⟨rfl, rfl⟩
  | journals call orderRef hins => exact Or.inl ⟨rfl, rfl⟩
  | recordsOutbound call orderRef hins => exact Or.inl ⟨rfl, rfl⟩
  | recordsInbound call orderRef hins => exact Or.inl ⟨rfl, rfl⟩

end Requests

/-- The requests of a run, whichever thread makes them and whatever comes in between the
effects of an insert, are numbered 1, 2, 3 and so on. -/
theorem request_ids_consecutive (core : Core) (ts : List Tick) :
    ∃ n, (gateway core).log (requestIds core) ts =
      (List.range n).map fun i => Int32.ofNat (i + 1) := by
  obtain ⟨hids, -⟩ := Machine.counted (s := (gateway core).init)
    fun g t (_ : t ∈ ts) => tick_counts_requests core g t
  refine ⟨_, hids.trans (List.map_congr_left ?_)⟩
  intro i _
  rw [increment_iterate, increment, Int32.ofNat_add]
  show (0 : Int32) + Int32.ofNat i + 1 = Int32.ofNat i + 1
  rw [Int32.zero_add]

/-- From a login to the next one, inserts and cancels send the references that follow on its
`MaxOrderRef`, in the order in which they are sent. -/
theorem references_consecutive (core : Core) (ts : List Tick) (login : RspUserLoginField)
    (info : Option RspInfoField) (ret : Int32) (us : List Tick) (hinfo : isError info = false)
    (hus : ∀ t ∈ us, ∀ e, t = .event e → loginOf e = none) :
    ∃ n, (gateway core).logFrom (takenRefs core)
        ((gateway core).exec (ts ++ [.event (.onRspUserLogin (some login) info ret)])) us =
      (List.range n).map fun i => login.maxOrderRef + Int32.ofNat (i + 1) := by
  obtain ⟨hrefs, -⟩ := Machine.counted
    (s := (gateway core).exec (ts ++ [.event (.onRspUserLogin (some login) info ret)]))
    fun g t (ht : t ∈ us) => tick_counts_refs core g (hus t ht)
  have hstart : ((gateway core).exec
      (ts ++ [.event (.onRspUserLogin (some login) info ret)])).trader.orderRef =
        login.maxOrderRef + 1 := by
    have hlogin := (onRspUserLogin_spec core ((gateway core).exec ts).trader (some login) info).1
    rw [Machine.exec_concat]
    refine Eq.trans (congrArg Routing.orderRef hlogin) ?_
    rw [hinfo]
    rfl
  refine ⟨_, hrefs.trans (List.map_congr_left ?_)⟩
  intro i _
  rw [increment_iterate, hstart, id, Int32.ofNat_add, Int32.add_assoc, Int32.add_comm 1]
  rfl

/-- Two inserts, a cancel that comes in between the effects of the second, a disconnection. -/
theorem references_consecutive_interrupted :
    let ts := [.event (sampleLogin 3 7 10)] ++ uninterrupted (.insertOrder (.sample 1 100))
    let us := uninterrupted (.insertOrder (.sample 1 101)) ++
      [.event (.insertOrder (.sample 2 102)), .event (.cancelOrder (.sample 101)),
        .event (.onFrontDisconnected 0), .resume, .resume, .resume]
    ∃ n, (gateway .sample).logFrom (takenRefs .sample)
        ((gateway .sample).exec (ts ++ [.event (.onRspUserLogin (some ⟨3, 8, 40, []⟩) none 0)])) us =
      (List.range n).map fun i => 40 + Int32.ofNat (i + 1) := by
  intro ts us
  refine references_consecutive .sample ts ⟨3, 8, 40, []⟩ none 0 us rfl ?_
  intro t ht e he
  subst he
  simp only [us, uninterrupted, List.mem_append, List.mem_cons, List.not_mem_nil, or_false,
    Tick.event.injEq, reduceCtorEq] at ht
  rcases ht with rfl | rfl | rfl | rfl <;> rfl

end KungfuTora
