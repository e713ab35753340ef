import KungfuTora.MarketData
import KungfuTora.Trader.Sample

/-!
# Prices of a quote

A quote has eight single prices and five levels on either side. The converter copies each of
them from its own field and replaces three of them by zero where the vendor has no value.
-/

namespace KungfuTora

/-- The prices of a market data record and of a quote. -/
inductive PriceSlot where
  | preClose
  | last
  | opening
  | high
  | low
  | close
  | upperLimit
  | lowerLimit
  | bid (level : Fin 5)
  | ask (level : Fin 5)
  deriving DecidableEq, Repr

def MarketDataField.price (md : MarketDataField) : PriceSlot → Double
  | .preClose => md.preClosePrice
  | .last => md.lastPrice
  | .opening => md.openPrice
  | .high => md.highestPrice
  | .low => md.lowestPrice
  | .close => md.closePrice
  | .upperLimit => md.upperLimitPrice
  | .lowerLimit => md.lowerLimitPrice
  | .bid 0 => md.bidPrice1
  | .bid 1 => md.bidPrice2
  | .bid 2 => md.bidPrice3
  | .bid 3 => md.bidPrice4
  | .bid 4 => md.bidPrice5
  | .ask 0 => md.askPrice1
  | .ask 1 => md.askPrice2
  | .ask 2 => md.askPrice3
  | .ask 3 => md.askPrice4
  | .ask 4 => md.askPrice5

def Quote.price (quote : Quote) : PriceSlot → Double
  | .preClose => quote.preClosePrice
  | .last => quote.lastPrice
  | .opening => quote.openPrice
  | .high => quote.highPrice
  | .low => quote.lowPrice
  | .close => quote.closePrice
  | .upperLimit => quote.upperLimitPrice
  | .lowerLimit => quote.lowerLimitPrice
  | .bid level => quote.bidPrice[level]
  | .ask level => quote.askPrice[level]

/-- The prices that the converter compares with `is_too_large`. -/
def PriceSlot.Checked : PriceSlot → Prop
  | .preClose | .last | .close => True
  | _ => False

instance : (slot : PriceSlot) → Decidable slot.Checked
  | .preClose | .last | .close => .isTrue trivial
  | .opening | .high | .low | .upperLimit | .lowerLimit | .bid _ | .ask _ => .isFalse id

namespace Market

/-- No price of the quote is too large, and the prices that were not before are in it
unchanged. -/
structure Sound (core : MarketCore) (md : MarketDataField) (quote : Quote) : Prop where
  small : ∀ slot, core.isTooLarge (quote.price slot) = false
  kept : ∀ slot, core.isTooLarge (md.price slot) = false → quote.price slot = md.price slot

/-- Every price lands in its own slot, but for the checked ones that are too large. -/
theorem fromToraMarketData_price (core : MarketCore) (md : MarketDataField) (slot : PriceSlot) :
    (fromToraMarketData core md).price slot =
      if slot.Checked ∧ core.isTooLarge (md.price slot) = true then 0 else md.price slot := by
  cases slot with
  | preClose | last | close =>
    simp [PriceSlot.Checked, fromToraMarketData, Quote.price, MarketDataField.price]
  | bid level =>
    rw [if_neg fun h => h.1]
    match level with
    | 0 | 1 | 2 | 3 | 4 => rfl
  | ask level =>
    rw [if_neg fun h => h.1]
    match level with
    | 0 | 1 | 2 | 3 | 4 => rfl
  | opening | high | low | upperLimit | lowerLimit => rw [if_neg fun h => h.1]; rfl

theorem fromToraMarketData_sound_iff {core : MarketCore} (hzero : core.isTooLarge 0 = false)
    (md : MarketDataField) :
    Sound core md (fromToraMarketData core md) ↔
      ∀ slot : PriceSlot, ¬ slot.Checked → core.isTooLarge (md.price slot) = false := by
  constructor
  · rintro ⟨hsmall, -⟩ slot hslot
    have hprice := fromToraMarketData_price core md slot
    rw [if_neg fun h => hslot h.1] at hprice
    rw [← hprice]
    exact hsmall slot
  · intro hunchecked
    constructor
    · intro slot
      rw [fromToraMarketData_price]
      by_cases hlarge : core.isTooLarge (md.price slot) = true
      · have hchecked : slot.Checked := by
          by_contra hslot
          rw [hunchecked slot hslot] at hlarge
          exact Bool.false_ne_true hlarge
        rw [if_pos ⟨hchecked, hlarge⟩]
        exact hzero
      · rw [if_neg fun h => hlarge h.2]
        simpa using hlarge
    · intro slot hfits
      rw [fromToraMarketData_price]
      apply if_neg
      rintro ⟨-, hlarge⟩
      rw [hfits] at hlarge
      exact Bool.false_ne_true hlarge

/-- A market data message publishes the quote it converts to. -/
theorem publishes_quote_iff (core : MarketCore) (s : MarketDataTora) (md : MarketDataField)
    (P : Quote → Prop) :
    (∃ quote, (step core s (.onRtnMarketData md)).2 = [.quote quote] ∧ P quote) ↔
      P (fromToraMarketData core md) := by
  constructor
  · rintro ⟨quote, hquote, hP⟩
    injection hquote with hhead
    injection hhead with heq
    rw [heq]
    exact hP
  · intro hP
    exact ⟨_, rfl, hP⟩

/-- The quote that a market data message publishes is free of prices that are too large, and
has all the others, if and only if none of the prices that are not checked is too large. -/
theorem published_quote_sound_iff (core : MarketCore) (hzero : core.isTooLarge 0 = false)
    (s : MarketDataTora) (md : MarketDataField) :
    (∃ quote, (step core s (.onRtnMarketData md)).2 = [.quote quote] ∧ Sound core md quote) ↔
      ∀ slot : PriceSlot, ¬ slot.Checked → core.isTooLarge (md.price slot) = false := by
  rw [publishes_quote_iff, fromToraMarketData_sound_iff hzero]

/-- Nothing has been traded yet, and only checked prices have no value. -/
theorem published_quote_sound_before_trade :
    ∃ quote, (step .sample .initial (.onRtnMarketData
        { MarketDataField.sample with lastPrice := .max, closePrice := .max })).2 =
          [.quote quote] ∧
      Sound .sample { MarketDataField.sample with lastPrice := .max, closePrice := .max } quote := by
  apply (published_quote_sound_iff .sample (by decide) .initial _).mpr
  intro slot hunchecked
  cases slot with
  | preClose | last | close => exact absurd trivial hunchecked
  | bid level =>
    match level with
    | 0 | 1 | 2 | 3 | 4 => decide
  | ask level =>
    match level with
    | 0 | 1 | 2 | 3 | 4 => decide
  | opening | high | low | upperLimit | lowerLimit => decide

/-- Nothing has been traded yet, and the opening price has no value. -/
theorem open_price_too_large :
    ¬ ∃ quote, (step .sample .initial (.onRtnMarketData
        { MarketDataField.sample with openPrice := .max })).2 = [.quote quote] ∧
      Sound .sample { MarketDataField.sample with openPrice := .max } quote := by
  rw [publishes_quote_iff]
  intro hsound
  exact absurd (hsound.small .opening) (by decide)

end Market

end KungfuTora
