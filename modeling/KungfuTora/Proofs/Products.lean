import KungfuTora.Misc.Words
import KungfuTora.Trader.Sample

/-!
# Volumes in lots and in units

The vendor counts the repo instruments in lots, and the converters multiply its counts by
`get_vol_multi`. Nearly all of them form the product as an `int` and widen it afterwards, so it
is the exact one as long as it fits in 32 bits. What is left of an order is widened
first and always exact.
-/

namespace KungfuTora

open TraderTora

theorem getVolMulti_bounds (core : Core) (instrumentId exchangeId : CStr) :
    0 < (getVolMulti core instrumentId exchangeId).toInt ∧
      (getVolMulti core instrumentId exchangeId).toInt ≤ 1000 := by
  unfold getVolMulti
  split
  · decide
  · split <;> decide

/-- The multiplier of the security that a return names. -/
def OrderField.multi (core : Core) (field : OrderField) : Int :=
  (getVolMulti core field.securityId (fromToraExchange field.exchangeId)).toInt

/-- The multiplier of the security that a position is in. -/
def PositionField.multi (core : Core) (field : PositionField) : Int :=
  (getVolMulti core field.securityId (fromToraExchange field.exchangeId)).toInt

/-! ## Orders -/

/-- The order's volume is multiplied in 32 bits. -/
theorem fromToraOrder_volume (core : Core) (field : OrderField) (des : Order) :
    (fromToraOrder core field des).volume.toInt =
      (field.volumeTotalOriginal.toInt * field.multi core).bmod (2 ^ 32) := by
  show (Int32.toInt64 (_ * _)).toInt = _
  rw [Int32.toInt_toInt64, Int32.toInt_mul]
  rfl

/-- What is left is subtracted in 32 bits and multiplied in 64. -/
theorem fromToraOrder_volumeLeft (core : Core) (field : OrderField) (des : Order) :
    (fromToraOrder core field des).volumeLeft.toInt =
      (field.volumeTotalOriginal.toInt - field.volumeTraded.toInt).bmod (2 ^ 32) *
        field.multi core := by
  obtain ⟨hpos, hhi⟩ :=
    getVolMulti_bounds core field.securityId (fromToraExchange field.exchangeId)
  show ((_ - _ : Int32).toInt64 * Int32.toInt64 _).toInt = _
  rw [Int64.toInt_widened_mul (by omega) hhi, Int32.toInt_sub]
  rfl

/-- The order holds the volumes that the return counts in lots, in units. -/
structure VolumesExact (core : Core) (field : OrderField) (order : Order) : Prop where
  volume : order.volume.toInt = field.volumeTotalOriginal.toInt * field.multi core
  volumeLeft : order.volumeLeft.toInt =
    (field.volumeTotalOriginal.toInt - field.volumeTraded.toInt) * field.multi core
  nonneg : 0 ≤ order.volumeLeft.toInt
  le_volume : order.volumeLeft.toInt ≤ order.volume.toInt

/-- The volumes of an order are exact if and only if its volume, in units, is below
`2 ^ 31`. -/
theorem order_volumes_exact_iff (core : Core) (field : OrderField) (des : Order)
    (hnonneg : 0 ≤ field.volumeTraded.toInt)
    (hle : field.volumeTraded.toInt ≤ field.volumeTotalOriginal.toInt) :
    VolumesExact core field (fromToraOrder core field des) ↔
      field.volumeTotalOriginal.toInt * field.multi core < 2 ^ 31 := by
  have hpos : 0 < field.multi core := (getVolMulti_bounds core _ _).1
  have horiginal := field.volumeTotalOriginal.toInt_lt
  have hproduct : 0 ≤ field.volumeTotalOriginal.toInt * field.multi core :=
    Int.mul_nonneg (by omega) (by omega)
  have hvolume : (fromToraOrder core field des).volume.toInt =
      field.volumeTotalOriginal.toInt * field.multi core ↔
        field.volumeTotalOriginal.toInt * field.multi core < 2 ^ 31 := by
    rw [fromToraOrder_volume, Int.bmod32_eq_iff, Int.Fits32]
    omega
  have hleft : (fromToraOrder core field des).volumeLeft.toInt =
      (field.volumeTotalOriginal.toInt - field.volumeTraded.toInt) * field.multi core := by
    rw [fromToraOrder_volumeLeft]
    congr 1
    exact Int.bmod_eq_of_le (by omega) (by omega)
  constructor
  · intro h
    exact hvolume.mp h.volume
  · intro hfits
    have hexact := hvolume.mpr hfits
    refine ⟨hexact, hleft, ?_, ?_⟩
    · rw [hleft]
      exact Int.mul_nonneg (by omega) (by omega)
    · rw [hleft, hexact]
      exact Int.mul_le_mul_of_nonneg_right (by omega) (by omega)

/-- A bond repo of 2147484 lots, nothing of it traded: the volume wraps, what is left of it does
not. -/
theorem order_volume_wraps :
    let field : OrderField :=
      { OrderField.sample 3 7 11 66 with
        securityId := cstr "204001", volumeTotalOriginal := 2147484 }
    (0 ≤ field.volumeTraded.toInt ∧
      field.volumeTraded.toInt ≤ field.volumeTotalOriginal.toInt) ∧
      ¬ VolumesExact .sample field (fromToraOrder .sample field .zero) := by
  intro field
  refine ⟨by decide, ?_⟩
  intro h
  exact absurd h.le_volume (by decide)

/-- The largest count of a security that is no repo. -/
theorem order_volumes_exact_share :
    let field : OrderField :=
      { OrderField.sample 3 7 11 66 with
        volumeTotalOriginal := 2147483647, volumeTraded := 2147483646 }
    VolumesExact .sample field (fromToraOrder .sample field .zero) ↔
      field.volumeTotalOriginal.toInt * field.multi .sample < 2 ^ 31 :=
  order_volumes_exact_iff .sample _ .zero (by decide) (by decide)

/-! ## Positions -/

/-- The position record that an output carries. -/
def Output.positionData : Output → Option Position
  | .position _ data => some data
  | _ => none

/-- The position holds the vendor's counts in units; the volume, by which the average prices
are divided, is not zero. -/
structure PositionExact (core : Core) (field : PositionField) (pos : Position) : Prop where
  positive : 0 < pos.volume.toInt
  averages : pos.avgOpenPrice = core.divide field.openPosCost pos.volume ∧
    pos.positionCostPrice = core.divide field.totalPosCost pos.volume
  volume : pos.volume.toInt = field.currentPosition.toInt * field.multi core
  yesterdayVolume : pos.yesterdayVolume.toInt = field.historyPos.toInt * field.multi core
  frozenTotal : pos.frozenTotal.toInt =
    (field.historyPosFrozen.toInt + field.todayBSPosFrozen.toInt) * field.multi core
  frozenYesterday : pos.frozenYesterday.toInt =
    field.historyPosFrozen.toInt * field.multi core

/-- The answer publishes one position, and its volumes are exact. -/
def PublishesExactly (core : Core) (s : TraderTora) (field : PositionField)
    (info : Option RspInfoField) (bIsLast : Bool) (now : Int64) : Prop :=
  ∃ pos, (step core s (.onRspQryPosition (some field) info bIsLast now)).2.filterMap
    Output.positionData = [pos] ∧ PositionExact core field pos

/-- Every count of the position fits in 32 bits, in units. -/
structure PositionField.Fits (core : Core) (field : PositionField) : Prop where
  current : (field.currentPosition.toInt * field.multi core).Fits32
  history : (field.historyPos.toInt * field.multi core).Fits32
  frozen :
    ((field.historyPosFrozen.toInt + field.todayBSPosFrozen.toInt) * field.multi core).Fits32
  historyFrozen : (field.historyPosFrozen.toInt * field.multi core).Fits32

/-- The position that `OnRspQryPosition` publishes. -/
theorem positionData_of_step (core : Core) (s : TraderTora) {field : PositionField}
    {info : Option RspInfoField} (bIsLast : Bool) (now : Int64) (hinfo : isError info = false)
    (hsecurity : field.securityId ≠ []) (hcurrent : 0 < field.currentPosition) :
    (step core s (.onRspQryPosition (some field) info bIsLast now)).2.filterMap
        Output.positionData =
      [{ fromToraPosition core field now with
        tradingDay := s.tradingDay
        holderUid := core.homeUid
        ledgerCategory := .account }] := by
  dsimp only [step]
  unfold onRspQryPosition positionRecords
  simp only [hinfo, Bool.false_eq_true, if_false]
  rw [if_pos ⟨hsecurity, hcurrent⟩]
  cases bIsLast <;> rfl

/-- A position that passes the guard is published in exact volumes if and only if they fit in
32 bits. -/
theorem positions_exact_iff (core : Core) (s : TraderTora) (field : PositionField)
    (info : Option RspInfoField) (bIsLast : Bool) (now : Int64) (hinfo : isError info = false)
    (hsecurity : field.securityId ≠ []) (hcurrent : 0 < field.currentPosition) :
    PublishesExactly core s field info bIsLast now ↔ field.Fits core := by
  unfold PublishesExactly
  rw [positionData_of_step core s bIsLast now hinfo hsecurity hcurrent]
  simp only [List.cons.injEq, and_true, exists_eq_left']
  constructor
  · intro h
    exact ⟨(Int32.toInt64_mul_eq_iff _ _).mp h.volume,
      (Int32.toInt64_mul_eq_iff _ _).mp h.yesterdayVolume,
      (Int32.toInt64_add_mul_eq_iff _ _ _).mp h.frozenTotal,
      (Int32.toInt64_mul_eq_iff _ _).mp h.frozenYesterday⟩
  · intro h
    have hmulti : 0 < field.multi core := (getVolMulti_bounds core _ _).1
    have hvolume := (Int32.toInt64_mul_eq_iff _ _).mpr h.current
    refine ⟨?_, ⟨rfl, rfl⟩, hvolume, (Int32.toInt64_mul_eq_iff _ _).mpr h.history,
      (Int32.toInt64_add_mul_eq_iff _ _ _).mpr h.frozen,
      (Int32.toInt64_mul_eq_iff _ _).mpr h.historyFrozen⟩
    refine lt_of_lt_of_eq ?_ hvolume.symm
    exact Int.mul_pos (Int32.lt_iff_toInt_lt.mp hcurrent) hmulti

/-- A position of 2^29 lots in a bond repo passes the guard and is published with volume
zero. -/
theorem position_volume_zero :
    let field : PositionField :=
      { PositionField.sample with securityId := cstr "204001", currentPosition := 536870912 }
    (field.securityId ≠ [] ∧ 0 < field.currentPosition) ∧
      (fromToraPosition .sample field 5).volume = 0 ∧
      ¬ PublishesExactly .sample .initial field none true 5 := by
  intro field
  refine ⟨by decide, by decide, ?_⟩
  rintro ⟨pos, hpos, hexact⟩
  rw [positionData_of_step .sample .initial true 5 rfl (by decide) (by decide)] at hpos
  have hpositive := hexact.positive
  rw [← (List.cons.inj hpos).1] at hpositive
  exact absurd hpositive (by decide)

/-- Ten lots of a bond repo, some of them frozen. -/
theorem positions_exact_repo :
    let field : PositionField := { PositionField.sample with securityId := cstr "204001" }
    PublishesExactly .sample .initial field none true 5 ↔ field.Fits .sample :=
  positions_exact_iff .sample .initial _ none true 5 rfl (by decide) (by decide)

end KungfuTora
