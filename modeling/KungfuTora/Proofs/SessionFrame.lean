import KungfuTora.Proofs.History

/-!
# The frame of the session

The calls about the connection and the queries neither read nor write what orders go through.
Whatever orders, returns and shareholders there are and however many requests have been made,
such a call does the same, and it leaves them as they are. What shows of them is the id of the
request that it makes.
-/

namespace KungfuTora

open TraderTora

/-- An output without the id of its request. -/
def Output.withoutId : Output → Output
  | .reqUserLogin req _ => .reqUserLogin req 0
  | .reqQryShareholderAccount investorId _ => .reqQryShareholderAccount investorId 0
  | .reqQrySecurity _ => .reqQrySecurity 0
  | .reqQryPosition investorId _ => .reqQryPosition investorId 0
  | .reqQryTradingAccount investorId departmentId _ =>
    .reqQryTradingAccount investorId departmentId 0
  | .reqOrderInsert req _ => .reqOrderInsert req 0
  | .reqOrderAction req _ => .reqOrderAction req 0
  | o => o

/-- An output as it is when `d` more requests have been made before it. -/
def Output.renumbered (d : Int32) : Output → Output
  | .reqUserLogin req nRequestID => .reqUserLogin req (nRequestID + d)
  | .reqQryShareholderAccount investorId nRequestID =>
    .reqQryShareholderAccount investorId (nRequestID + d)
  | .reqQrySecurity nRequestID => .reqQrySecurity (nRequestID + d)
  | .reqQryPosition investorId nRequestID => .reqQryPosition investorId (nRequestID + d)
  | .reqQryTradingAccount investorId departmentId nRequestID =>
    .reqQryTradingAccount investorId departmentId (nRequestID + d)
  | .reqOrderInsert req nRequestID => .reqOrderInsert req (nRequestID + d)
  | .reqOrderAction req nRequestID => .reqOrderAction req (nRequestID + d)
  | o => o

theorem Output.renumbered_zero (o : Output) : o.renumbered 0 = o := by
  cases o <;> simp [renumbered]

theorem Output.renumbered_withoutId (d : Int32) (o : Output) :
    (o.renumbered d).withoutId = o.withoutId := by
  cases o <;> rfl

/-- `s` with the books of `p`. -/
def TraderTora.withBooks (s p : TraderTora) : TraderTora :=
  { s with
    toRouting := p.toRouting
    exchange2Shareholder := p.exchange2Shareholder
    trades := p.trades
    actions := p.actions }

/-- `s` with the books of `p` and `d` more requests made. -/
def TraderTora.withTraffic (s p : TraderTora) (d : Int32) : TraderTora :=
  { s.withBooks p with rid := s.rid + d }

theorem TraderTora.withTraffic_zero (s p : TraderTora) : s.withTraffic p 0 = s.withBooks p := by
  unfold withTraffic
  rw [Int32.add_zero]
  rfl

/-- `f` does the same whatever the books are and however many requests have been made. -/
structure Oblivious (f : TraderTora → Effect) : Prop where
  frame : ∀ s p d, f (s.withTraffic p d) =
    ((f s).1.withTraffic p d, (f s).2.map (Output.renumbered d))
  tradingDay : ∀ s, (f s).1.tradingDay = s.tradingDay

namespace Oblivious

variable {f g : TraderTora → Effect}

theorem nothing : Oblivious fun s => (s, []) := ⟨fun _ _ _ => rfl, fun _ => rfl⟩

theorem andThen (hf : Oblivious f) (hg : Oblivious g) : Oblivious fun s => (f s).andThen g where
  frame := by
    intro s p d
    dsimp only [Effect.andThen]
    rw [hf.frame, hg.frame, List.map_append]
  tradingDay := fun s => (hg.tradingDay _).trans (hf.tradingDay s)

theorem ite (c : Prop) [Decidable c] (hf : Oblivious f) (hg : Oblivious g) :
    Oblivious fun s => if c then f s else g s := by
  by_cases hc : c
  · simpa only [hc, if_true] using hf
  · simpa only [hc, if_false] using hg

/-- What is put out may depend on all but the books. -/
theorem puts (os : TraderTora → List Output)
    (h : ∀ s p d, os (s.withTraffic p d) = (os s).map (Output.renumbered d)) :
    Oblivious fun s => (s, os s) :=
  ⟨fun s p d => Prod.ext rfl (h s p d), fun _ => rfl⟩

theorem updateBrokerState (state : BrokerState) : Oblivious (updateBrokerState state) :=
  ⟨fun _ _ _ => rfl, fun _ => rfl⟩

/-- The next request has an id that is `d` more. -/
theorem request (req : TraderTora → Int32 → Output)
    (h : ∀ s p d n, req (s.withTraffic p d) (n + d) = (req s n).renumbered d) :
    Oblivious fun s => s.request (req s) where
  frame := by
    intro s p d
    have hid : s.rid + d + 1 = s.rid + 1 + d := by
      rw [Int32.add_assoc, Int32.add_comm d, ← Int32.add_assoc]
    refine Prod.ext ?_ ?_
    · show { s.withTraffic p d with rid := s.rid + d + 1 } = _
      rw [hid]
      rfl
    · show [req (s.withTraffic p d) (s.rid + d + 1)] = [(req s (s.rid + 1)).renumbered d]
      rw [hid, h]
  tradingDay := fun _ => rfl

end Oblivious

section Calls

variable (core : Core)

theorem login_oblivious (ret : Int32) : Oblivious (login core ret) :=
  (Oblivious.request
    (fun s => .reqUserLogin ⟨core.accountId, s.password, s.departmentId, s.dynamicPassword⟩)
    fun _ _ _ _ => rfl).andThen (.ite _ (.updateBrokerState _) .nothing)

/-- What `req_position` and `req_account` do with the value that the request returns. -/
theorem answered_oblivious (ret : Int32) :
    Oblivious fun s =>
      if ret ≠ 0 then
        (s.updateBrokerState .disConnected).andThen fun s => (s, [.returned false])
      else (s, [.returned true]) :=
  .ite _ ((Oblivious.updateBrokerState _).andThen (.puts _ fun _ _ _ => rfl))
    (.puts _ fun _ _ _ => rfl)

theorem recordSecurity_oblivious (security : Option SecurityField) (frame : Instrument) :
    Oblivious fun s => s.recordSecurity core security frame := by
  unfold recordSecurity
  cases security with
  | none => exact .nothing
  | some security => exact .ite _ ⟨fun _ _ _ => rfl, fun _ => rfl⟩ .nothing

theorem onRspQrySecurity_oblivious (security : Option SecurityField)
    (info : Option RspInfoField) (bIsLast : Bool) (frame : Instrument) :
    Oblivious (onRspQrySecurity core security info bIsLast frame) := by
  refine .ite _ .nothing ((recordSecurity_oblivious core security frame).andThen ?_)
  exact .ite _ ⟨fun _ _ _ => rfl, fun _ => rfl⟩ .nothing

theorem onRspQryTradingAccount_oblivious (account : Option TradingAccountField)
    (info : Option RspInfoField) (nowInNano : Int64) :
    Oblivious (onRspQryTradingAccount core account info nowInNano) := by
  unfold onRspQryTradingAccount
  refine .ite _ .nothing ?_
  cases account with
  | none => exact .nothing
  | some account => exact .ite _ ⟨fun _ _ _ => rfl, fun _ => rfl⟩ .nothing

theorem onRspQryPosition_oblivious (position : Option PositionField)
    (info : Option RspInfoField) (bIsLast : Bool) (nowInNano : Int64) :
    Oblivious (onRspQryPosition core position info bIsLast nowInNano) := by
  refine .ite _ .nothing (.puts _ ?_)
  intro s p d
  have hrecords : s.positionRecords core position nowInNano =
      (s.positionRecords core position nowInNano).map (Output.renumbered d) := by
    rcases positionRecords_eq core s position nowInNano with h | ⟨_, h⟩ <;> rw [h] <;> rfl
  rw [List.map_append, ← hrecords]
  cases bIsLast <;> rfl

/-- The calls about the connection and the queries see nothing of orders. -/
theorem step_oblivious {e : Event} (he : e.sessionOnly = true) :
    Oblivious fun s => step core s e := by
  cases e with
  | onFrontConnected ret =>
    exact (Oblivious.updateBrokerState .connected).andThen (login_oblivious core ret)
  | onFrontDisconnected => exact .updateBrokerState _
  | onRspError | onRspOrderAction | onErrRtnOrderAction => exact .nothing
  | onRspQrySecurity security info bIsLast frame =>
    exact onRspQrySecurity_oblivious core security info bIsLast frame
  | onRspQryTradingAccount account info now =>
    exact onRspQryTradingAccount_oblivious core account info now
  | onRspQryPosition position info bIsLast now =>
    exact onRspQryPosition_oblivious core position info bIsLast now
  | reqPosition ret =>
    exact (Oblivious.request (fun _ => .reqQryPosition _) fun _ _ _ _ => rfl).andThen
      (answered_oblivious ret)
  | reqAccount ret =>
    exact (Oblivious.request (fun s => .reqQryTradingAccount _ s.departmentId)
      fun _ _ _ _ => rfl).andThen (answered_oblivious ret)
  | _ => simp [Event.sessionOnly] at he

end Calls

section Frame

variable (core : Core) (s p : TraderTora) {e : Event}

/-- With other books, and other requests made, the call puts out the same apart from the id. -/
theorem sessionOnly_withTraffic (d : Int32) (he : e.sessionOnly = true) :
    (step core (s.withTraffic p d) e).1 = (step core s e).1.withTraffic p d ∧
      (step core (s.withTraffic p d) e).2.map Output.withoutId =
        (step core s e).2.map Output.withoutId := by
  have hframe : step core (s.withTraffic p d) e = _ := (step_oblivious core he).frame s p d
  rw [hframe]
  refine ⟨rfl, ?_⟩
  rw [List.map_map]
  exact List.map_congr_left fun o _ => Output.renumbered_withoutId d o

/-- A call about the session does the same whatever the books are, and leaves them as they are. -/
theorem sessionOnly_withBooks (he : e.sessionOnly = true) :
    step core (s.withBooks p) e = ((step core s e).1.withBooks p, (step core s e).2) ∧
      (step core s e).1.tradingDay = s.tradingDay := by
  refine ⟨?_, (step_oblivious core he).tradingDay s⟩
  have hframe : step core (s.withTraffic p 0) e = _ := (step_oblivious core he).frame s p 0
  rw [withTraffic_zero, withTraffic_zero] at hframe
  rw [hframe, funext Output.renumbered_zero, List.map_id']

theorem sessionOnly_eq_withBooks (he : e.sessionOnly = true) :
    (step core s e).1 = (step core s e).1.withBooks s :=
  congrArg Prod.fst (sessionOnly_withBooks core s s he).1

end Frame

end KungfuTora
