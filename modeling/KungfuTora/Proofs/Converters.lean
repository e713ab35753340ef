import KungfuTora.MarketTypeConvert
import KungfuTora.Trader.Sample

/-!
# The two copies of the shared converters

The trader's and the market data gateway's headers define six functions under the same
names, and the linker may keep either copy of each. They do the same but for one: the
market copy of `to_tora` has no branch for an unknown exchange.
-/

namespace KungfuTora

/-- What the six shared converters are called with. -/
structure ConverterInput where
  exchangeId : CStr
  toraExchange : TTORATstpExchangeIDType
  /-- What the output parameter of `to_tora` holds before the call. -/
  priorCode : TTORATstpExchangeIDType
  /-- What the output parameter of `from_tora` holds before the call. -/
  priorText : CharBuf
  instrumentId : CStr
  date : CharBuf
  updateTime : CharBuf
  millisec : Int32
  todayStart : Int64
  tradingDay : CStr
  toraTime : Int64
  isQuote : Bool

/-- Either copy of each of the six leaves the same. -/
structure ConvertersAgree (core : Core) (x : ConverterInput) : Prop where
  nsecFromToraTime :
    nsecFromToraTime core x.date x.updateTime x.millisec =
      Market.nsecFromToraTime core x.date x.updateTime x.millisec
  fromToraTimestamp :
    fromToraTimestamp x.todayStart x.tradingDay x.toraTime x.toraExchange x.isQuote =
      Market.fromToraTimestamp x.todayStart x.tradingDay x.toraTime x.toraExchange x.isQuote
  getExchange : getExchange x.toraExchange = Market.getExchange x.toraExchange
  fromTora :
    strcpy x.priorText (fromToraExchange x.toraExchange) =
      strcpy x.priorText (Market.fromToraExchange x.toraExchange)
  toTora : toToraExchange x.exchangeId = Market.toToraExchange x.exchangeId x.priorCode
  getVolMulti :
    getVolMulti core x.instrumentId x.exchangeId =
      Market.getVolMulti core x.instrumentId x.exchangeId

theorem toToraExchange_eq_iff (exchangeId : CStr) (prior : TTORATstpExchangeIDType) :
    toToraExchange exchangeId = Market.toToraExchange exchangeId prior ↔
      (exchangeId = exchangeSSE ∨ exchangeId = exchangeSZE ∨ exchangeId = exchangeBSE) ∨
        prior = toraTstpExdComm := by
  unfold toToraExchange Market.toToraExchange
  by_cases hsse : exchangeId = exchangeSSE
  · simp [hsse]
  · by_cases hsze : exchangeId = exchangeSZE
    · simp [hsze]
    · by_cases hbse : exchangeId = exchangeBSE
      · simp [hbse]
      · simp only [hsse, hsze, hbse, if_false, or_self, false_or]
        exact eq_comm

/-- The two headers agree on exactly the inputs on which `to_tora` does not leave its
output parameter to chance: a known exchange, or the code for the others already there. -/
theorem convertersAgree_iff (core : Core) (x : ConverterInput) :
    ConvertersAgree core x ↔
      (x.exchangeId = exchangeSSE ∨ x.exchangeId = exchangeSZE ∨ x.exchangeId = exchangeBSE) ∨
        x.priorCode = toraTstpExdComm := by
  rw [← toToraExchange_eq_iff]
  constructor
  · exact fun h => h.toTora
  · exact fun h => ⟨rfl, rfl, rfl, rfl, h, rfl⟩

/-- A Hong Kong exchange id over a zeroed request field: the trader's copy writes the code
for the other exchanges, the market copy leaves the zero. -/
theorem converters_disagree_on_unknown_exchange :
    let x : ConverterInput :=
      { exchangeId := cstr "HKE", toraExchange := toraTstpExdSSE, priorCode := 0, priorText := [],
        instrumentId := cstr "00700", date := [], updateTime := [], millisec := 0,
        todayStart := 0, tradingDay := [], toraTime := 0, isQuote := false }
    ¬ ConvertersAgree .sample x := by
  intro x h
  have hcode : toToraExchange x.exchangeId ≠ Market.toToraExchange x.exchangeId x.priorCode := by
    decide
  exact hcode h.toTora

end KungfuTora
