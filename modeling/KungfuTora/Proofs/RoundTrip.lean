import KungfuTora.Proofs.Products

/-!
# The terms of an order, sent and read back

`to_tora` writes an order's terms into the request and `from_tora` reads them from what
the counter echoes. Instrument, exchange, side and limit price come back. The volume is
sent in lots, so it comes back rounded to whole lots. Price types are encoded by what the
exchange offers, several of them alike, so some come back as another one.
-/

namespace KungfuTora

/-- The terms of an order, in Kungfu's words. -/
structure Terms where
  instrumentId : CStr
  exchangeId : CStr
  side : Side
  priceType : PriceType
  limitPrice : Double
  volume : Int64
  deriving DecidableEq, Repr

def OrderInput.terms (input : OrderInput) : Terms :=
  ⟨input.instrumentId, input.exchangeId, input.side, input.priceType, input.limitPrice,
    input.volume⟩

def Order.terms (order : Order) : Terms :=
  ⟨order.instrumentId, order.exchangeId, order.side, order.priceType, order.limitPrice,
    order.volume⟩

/-- The terms of an order, in the vendor's words. -/
structure WireTerms where
  securityId : CStr
  exchangeId : TTORATstpExchangeIDType
  direction : ToraDirection
  orderPriceType : OrderPriceType
  limitPrice : Double
  volumeTotalOriginal : Int32
  deriving DecidableEq, Repr

def InputOrderField.wireTerms (field : InputOrderField) : WireTerms :=
  ⟨field.securityId, field.exchangeId, field.direction, field.orderPriceType, field.limitPrice,
    field.volumeTotalOriginal⟩

def OrderField.wireTerms (field : OrderField) : WireTerms :=
  ⟨field.securityId, field.exchangeId, field.direction, field.orderPriceType, field.limitPrice,
    field.volumeTotalOriginal⟩

/-- What both converters read from the wire, over an order that had the given side. -/
def readTerms (core : Core) (wire : WireTerms) (side : Side) : Terms :=
  let exchangeId := fromToraExchange wire.exchangeId
  { instrumentId := wire.securityId
    exchangeId := exchangeId
    side := fromToraDirection wire.direction side
    priceType := fromToraPriceType wire.orderPriceType
    limitPrice := wire.limitPrice
    volume := (wire.volumeTotalOriginal * getVolMulti core wire.securityId exchangeId).toInt64 }

section Read

variable (core : Core)

theorem fromToraOrder_terms (ori : OrderField) (des : Order) :
    (fromToraOrder core ori des).terms = readTerms core ori.wireTerms des.side := rfl

theorem fromToraInputOrder_terms (ori : InputOrderField) (des : Order) :
    (fromToraInputOrder core ori des).terms = readTerms core ori.wireTerms des.side := rfl

/-! ## Term by term -/

theorem fromToraExchange_toToraExchange {exchangeId : CStr}
    (h : exchangeId = exchangeSSE ∨ exchangeId = exchangeSZE ∨ exchangeId = exchangeBSE) :
    fromToraExchange (toToraExchange exchangeId) = exchangeId := by
  rcases h with rfl | rfl | rfl <;> decide

theorem fromToraDirection_toToraSide {side : Side} (h : side = .buy ∨ side = .sell)
    (instrumentId exchangeId : CStr) (side' : Side) :
    fromToraDirection (toToraSide core side instrumentId exchangeId) side' = side := by
  unfold toToraSide
  rcases h with rfl | rfl <;> cases core.isRepo instrumentId exchangeId <;> rfl

/-- What a price type comes back as; the ones that are sent as `AnyPrice` are left out. -/
def returnedPriceType (priceType : PriceType) (exchangeId instrumentId : CStr) :
    Option PriceType :=
  match priceType with
  | .limit | .forwardBest | .fakBest5 => some priceType
  | .reverseBest =>
    if exchangeId = exchangeSSE ∧ instrumentId.take 3 ≠ cstr "688" then some .fakBest5
    else some .reverseBest
  | .any =>
    if exchangeId = exchangeSSE then
      if instrumentId.take 3 = cstr "688" then some .reverseBest else some .fakBest5
    else if exchangeId = exchangeBSE then some .fakBest5
    else none
  | _ => none

theorem fromToraPriceType_toToraTerms {priceType returned : PriceType}
    {exchangeId instrumentId : CStr}
    (h : returnedPriceType priceType exchangeId instrumentId = some returned) :
    fromToraPriceType (toToraTerms priceType exchangeId instrumentId).1 = returned := by
  unfold returnedPriceType at h
  unfold toToraTerms
  cases priceType with
  | limit | forwardBest | fakBest5 => exact Option.some.inj h
  | reverseBest =>
    by_cases hsse : exchangeId = exchangeSSE
    · by_cases hstar : instrumentId.take 3 = cstr "688"
      · simp only [hsse, hstar, ne_eq, not_true_eq_false, and_false, if_false,
          Option.some.injEq] at h
        simp [hsse, hstar, ← h, fromToraPriceType]
      · simp only [hsse, hstar, ne_eq, not_false_eq_true, and_self, if_true,
          Option.some.injEq] at h
        simp [hsse, hstar, ← h, fromToraPriceType]
    · simp only [hsse, false_and, if_false, Option.some.injEq] at h
      simp [hsse, ← h, fromToraPriceType]
  | any =>
    by_cases hsse : exchangeId = exchangeSSE
    · by_cases hstar : instrumentId.take 3 = cstr "688"
      · simp only [hsse, hstar, if_true, Option.some.injEq] at h
        simp [hsse, hstar, ← h, fromToraPriceType]
      · simp only [hsse, hstar, if_true, if_false, Option.some.injEq] at h
        simp [hsse, hstar, ← h, fromToraPriceType]
    · by_cases hbse : exchangeId = exchangeBSE
      · have hne : exchangeBSE ≠ exchangeSSE := by decide
        simp only [hbse, hne, if_true, if_false, Option.some.injEq] at h
        simp [hbse, hne, ← h, fromToraPriceType]
      · simp [hsse, hbse] at h
  | _ => simp at h

end Read

/-! ## All terms together -/

/-- `returned` are the terms of the input as they come back by design. -/
structure ComesBack (core : Core) (input : OrderInput) (returned : Terms) : Prop where
  instrumentId : returned.instrumentId = input.instrumentId
  exchangeId : returned.exchangeId = input.exchangeId
  side : returned.side = input.side
  limitPrice : returned.limitPrice = input.limitPrice
  priceType : ∀ priceType,
    returnedPriceType input.priceType input.exchangeId input.instrumentId = some priceType →
      returned.priceType = priceType
  /-- A volume that fits in an `int` comes back rounded toward zero to whole lots. -/
  lots : -2 ^ 31 ≤ input.volume.toInt → input.volume.toInt < 2 ^ 31 →
    let multi := (getVolMulti core input.instrumentId input.exchangeId).toInt
    returned.volume.toInt = input.volume.toInt.tdiv multi * multi
  volume : -2 ^ 31 ≤ input.volume.toInt → input.volume.toInt < 2 ^ 31 →
    (getVolMulti core input.instrumentId input.exchangeId).toInt ∣ input.volume.toInt →
      returned.volume = input.volume

theorem readTerms_toToraOrderInput (core : Core) (input : OrderInput)
    (hside : input.side = .buy ∨ input.side = .sell)
    (hexchange : input.exchangeId = exchangeSSE ∨ input.exchangeId = exchangeSZE ∨
      input.exchangeId = exchangeBSE) (side : Side) :
    ComesBack core input (readTerms core (toToraOrderInput core input).wireTerms side) := by
  have hback : fromToraExchange (toToraExchange input.exchangeId) = input.exchangeId :=
    fromToraExchange_toToraExchange hexchange
  have hlots : -2 ^ 31 ≤ input.volume.toInt → input.volume.toInt < 2 ^ 31 →
      let multi := (getVolMulti core input.instrumentId input.exchangeId).toInt
      (readTerms core (toToraOrderInput core input).wireTerms side).volume.toInt =
        input.volume.toInt.tdiv multi * multi := by
    intro hlo hhi multi
    have hpos := (getVolMulti_bounds core input.instrumentId input.exchangeId).1
    have h := Int64.toInt_lots hpos hlo hhi
    rw [← h]
    simp only [readTerms, toToraOrderInput, InputOrderField.wireTerms, hback]
  refine ⟨rfl, hback, ?side, rfl, ?priceType, hlots, ?volume⟩
  case side => exact fromToraDirection_toToraSide core hside _ _ side
  case priceType => exact fun _ h => fromToraPriceType_toToraTerms h
  case volume =>
    intro hlo hhi hdvd
    apply Int64.toInt_inj.mp
    rw [hlots hlo hhi]
    exact Int.tdiv_mul_cancel hdvd

/-- If the counter echoes the terms of the request, both converters give back the terms of
the input, as far as the encoding keeps them apart. -/
theorem terms_come_back (core : Core) (input : OrderInput) (field : OrderField)
    (refusal : InputOrderField) (order : Order) (hside : input.side = .buy ∨ input.side = .sell)
    (hexchange : input.exchangeId = exchangeSSE ∨ input.exchangeId = exchangeSZE ∨
      input.exchangeId = exchangeBSE)
    (hfield : field.wireTerms = (toToraOrderInput core input).wireTerms)
    (hrefusal : refusal.wireTerms = (toToraOrderInput core input).wireTerms) :
    ComesBack core input (fromToraOrder core field order).terms ∧
      ComesBack core input (fromToraInputOrder core refusal order).terms := by
  rw [fromToraOrder_terms, fromToraInputOrder_terms, hfield, hrefusal]
  have h := readTerms_toToraOrderInput core input hside hexchange order.side
  exact ⟨h, h⟩

/-- A market order on SSE comes back as a five-level order. -/
theorem any_comes_back_as_fakBest5 :
    let input := { OrderInput.sample 100 with priceType := .any }
    let field := { OrderField.sample 3 7 11 66 with orderPriceType := .fiveLevelPrice }
    field.wireTerms = (toToraOrderInput .sample input).wireTerms ∧
      (fromToraOrder .sample field (Core.sample.orderFromInput input .zero)).terms ≠
        input.terms := by
  decide

/-- A limit order on SSE comes back as it was. -/
theorem terms_come_back_limit :
    let input := OrderInput.sample 100
    ComesBack .sample input (fromToraOrder .sample (.sample 3 7 11 66) .zero).terms ∧
      ComesBack .sample input
        (fromToraInputOrder .sample (toToraOrderInput .sample input) .zero).terms :=
  terms_come_back .sample _ _ _ _ (by decide) (by decide) (by decide) rfl

end KungfuTora
