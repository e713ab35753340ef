import KungfuTora.Proofs.RoundTrip

/-!
# What an insert sends

`insert_order` checks nothing: whatever the input, one request goes out, and what becomes of
the order depends on what `ReqOrderInsert` returns. For the sides, exchanges and price types
that `to_tora` knows, the request says what the input does. The other sides, exchanges and
price types get what the last branch of each test leaves them.
-/

namespace KungfuTora

open TraderTora

/-- The price types for which `to_tora` has a case. -/
def PriceType.Handled : PriceType → Prop
  | .unKnown | .other _ => False
  | _ => True

instance : (priceType : PriceType) → Decidable priceType.Handled
  | .limit | .any | .fakBest5 | .forwardBest | .reverseBest | .fak | .fok => .isTrue trivial
  | .unKnown | .other _ => .isFalse id

/-- An order that the adapter can express. -/
structure OrderInput.Expressible (input : OrderInput) : Prop where
  side : input.side = .buy ∨ input.side = .sell
  exchangeId : input.exchangeId = exchangeSSE ∨ input.exchangeId = exchangeSZE ∨
    input.exchangeId = exchangeBSE
  priceType : input.priceType.Handled

namespace InputOrderField

def Buys (req : InputOrderField) : Prop := req.direction = .buy ∨ req.direction = .repurchase

def Sells (req : InputOrderField) : Prop := req.direction = .sell ∨ req.direction = .reverseRepur

/-- None of the three codes is the zero that a fresh record holds. -/
def HasTerms (req : InputOrderField) : Prop :=
  req.orderPriceType ≠ .other 0 ∧ req.timeCondition ≠ .other 0 ∧ req.volumeCondition ≠ .other 0

end InputOrderField

/-! ## Refusing what cannot be expressed -/

/-- The request says what the input does. -/
structure SaysOrder (input : OrderInput) (req : InputOrderField) : Prop where
  buys : req.Buys ↔ input.side = .buy
  sells : req.Sells ↔ input.side = .sell
  terms : req.HasTerms
  volume : 0 < input.volume → 0 < req.volumeTotalOriginal

/-- A request goes out only for an order that the adapter can express, and says what its
input does; any other order is refused. -/
structure SendsExpressible (core : Core) (s : TraderTora) (call : InsertCall) : Prop where
  sends : ∀ req rid, .reqOrderInsert req rid ∈ (step core s (.insertOrder call)).2 →
    call.input.Expressible ∧ SaysOrder call.input req
  refuses : ¬ call.input.Expressible →
    (∀ req rid, .reqOrderInsert req rid ∉ (step core s (.insertOrder call)).2) ∧
      (∃ dest trigger order, .order dest trigger order ∈ (step core s (.insertOrder call)).2 ∧
        order.status = .error) ∧
      .returned false ∈ (step core s (.insertOrder call)).2

/-- A margin trade is sent as a sale, an order without a price type with zero terms, one for
Hong Kong goes out as well, and 999 units of a repo are sent as no lots. -/
theorem inexpressible_sent :
    let sent := fun input : OrderInput =>
      SendsExpressible .sample .initial { InsertCall.sample 1 100 with input := input }
    ¬ sent { OrderInput.sample 100 with side := .other 10 } ∧
      ¬ sent { OrderInput.sample 100 with priceType := .unKnown } ∧
      ¬ sent { OrderInput.sample 100 with exchangeId := cstr "HKE" } ∧
      ¬ sent { OrderInput.sample 100 with instrumentId := cstr "204001", volume := 999 } := by
  intro sent
  have hsends : ∀ input, sent input → input.Expressible ∧
      SaysOrder input (insertRequest .sample input .initial) := by
    intro input h
    exact h.sends _ 1 (List.mem_cons_self ..)
  refine ⟨?_, ?_, ?_, ?_⟩
  · intro h
    exact absurd (hsends _ h).1.side (by decide)
  · intro h
    exact absurd (hsends _ h).1.priceType (by decide)
  · intro h
    exact absurd (hsends _ h).1.exchangeId (by decide)
  · intro h
    exact absurd ((hsends _ h).2.volume (by decide)) (by decide)

/-! ## What is sent -/

section Translated

variable (core : Core) (input : OrderInput)

theorem toToraSide_buys {side : Side} (h : side = .buy ∨ side = .sell)
    (instrumentId exchangeId : CStr) :
    let direction := toToraSide core side instrumentId exchangeId
    (direction = .buy ∨ direction = .repurchase ↔ side = .buy) ∧
      (direction = .sell ∨ direction = .reverseRepur ↔ side = .sell) := by
  dsimp only
  unfold toToraSide
  rcases h with rfl | rfl <;> cases core.isRepo instrumentId exchangeId <;> simp

theorem toToraTerms_ne_zero {priceType : PriceType} (h : priceType.Handled)
    (exchangeId instrumentId : CStr) :
    let terms := toToraTerms priceType exchangeId instrumentId
    terms.1 ≠ .other 0 ∧ terms.2.1 ≠ .other 0 ∧ terms.2.2 ≠ .other 0 := by
  dsimp only
  unfold toToraTerms
  cases priceType with
  | any =>
    dsimp only
    by_cases hsse : exchangeId = exchangeSSE
    · rw [if_pos hsse]
      split <;> simp
    · rw [if_neg hsse]
      split <;> simp
  | reverseBest =>
    dsimp only
    split
    · split <;> simp
    · simp
  | unKnown => exact h.elim
  | other code => exact h.elim
  | _ => simp

/-- A volume of at least one lot, and of fewer than 2^31, comes to a positive count. -/
theorem toToraOrderInput_lots_pos
    (hlo : (getVolMulti core input.instrumentId input.exchangeId).toInt ≤ input.volume.toInt)
    (hhi : input.volume.toInt <
      2 ^ 31 * (getVolMulti core input.instrumentId input.exchangeId).toInt) :
    0 < (toToraOrderInput core input).volumeTotalOriginal.toInt := by
  have hmulti := (getVolMulti_bounds core input.instrumentId input.exchangeId).1
  have hlots : (toToraOrderInput core input).volumeTotalOriginal.toInt =
      (input.volume.toInt.tdiv
        (getVolMulti core input.instrumentId input.exchangeId).toInt).bmod (2 ^ 32) :=
    Int64.toInt_lots32 input.volume hmulti
  rw [hlots, Int.tdiv_eq_ediv_of_nonneg (by omega)]
  have hpos : 1 ≤ input.volume.toInt /
      (getVolMulti core input.instrumentId input.exchangeId).toInt :=
    Int.le_ediv_of_mul_le hmulti (by omega)
  have hlt : input.volume.toInt /
      (getVolMulti core input.instrumentId input.exchangeId).toInt < 2 ^ 31 :=
    Int.ediv_lt_of_lt_mul hmulti hhi
  rw [Int.bmod_eq_of_le (by omega) (by omega)]
  omega

end Translated

/-- What a request says of the input it was made from, one part of the input at a time. -/
structure Translates (core : Core) (input : OrderInput) (req : InputOrderField) : Prop where
  side : input.side = .buy ∨ input.side = .sell →
    (req.Buys ↔ input.side = .buy) ∧ (req.Sells ↔ input.side = .sell)
  exchangeId : input.exchangeId = exchangeSSE ∨ input.exchangeId = exchangeSZE ∨
      input.exchangeId = exchangeBSE → fromToraExchange req.exchangeId = input.exchangeId
  terms : input.priceType.Handled → req.HasTerms
  lots : (getVolMulti core input.instrumentId input.exchangeId).toInt ≤ input.volume.toInt →
    input.volume.toInt < 2 ^ 31 * (getVolMulti core input.instrumentId input.exchangeId).toInt →
    0 < req.volumeTotalOriginal.toInt

/-- Whatever the input, an insert sends one request, publishes the order once and returns
whether the request was taken; an order that was not has status Error. -/
theorem insert_order_sends (core : Core) (s : TraderTora) (call : InsertCall) :
    ∃ req rid order,
      (step core s (.insertOrder call)).2 =
        [.reqOrderInsert req rid, .order call.source call.genTime order,
          .returned (call.ret = 0)] ∧
      (call.ret ≠ 0 → order.status = .error) ∧ Translates core call.input req := by
  refine ⟨insertRequest core call.input s, s.rid + 1, initialOrder core call,
    insertOrder_outputs core s call, ?_, ?_⟩
  · intro hret
    unfold initialOrder
    dsimp only
    rw [if_pos hret]
  · refine ⟨?side, ?exchangeId, ?terms, ?lots⟩
    case side => exact fun h => toToraSide_buys core h _ _
    case exchangeId => exact fun h => fromToraExchange_toToraExchange h
    case terms => exact fun h => toToraTerms_ne_zero h _ _
    case lots => exact fun hlo hhi => toToraOrderInput_lots_pos core call.input hlo hhi

end KungfuTora
