import KungfuTora.Misc.Words
import KungfuTora.ToraApi

/-!
# The keys of the order maps (`common.h`)

`getOrderSysIdKey` packs the hashes of an exchange code and an exchange order
number, `getOrderRefKey` the low halves of front and session id and the hash of the
decimal order reference. What equal keys say about their arguments is read off
here once, up to collisions of the hash.
-/

namespace KungfuTora

/-- `std::to_string(int)`. -/
def toDecimal (r : Int32) : CStr :=
  let digits := (Nat.toDigits 10 r.toInt.natAbs).map fun c => c.toNat.toUInt8
  if r.toInt < 0 then 45 :: digits else digits

def getOrderSysIdKey (core : Core) (exchangeId : TTORATstpExchangeIDType) (orderSysId : CharBuf) :
    UInt64 :=
  let hashedExchangeId := core.hash32 [exchangeId]
  let hashedOrderSysId := core.hash32 orderSysId
  (hashedExchangeId.toUInt64 <<< 32) ||| hashedOrderSysId.toUInt64

/-- `((uint32_t)frontId << 16u) | (uint16_t)sessionId`. -/
def frontSessionId (frontId sessionId : Int32) : UInt32 :=
  (frontId.toUInt32 <<< 16) ||| sessionId.toUInt32.toUInt16.toUInt32

/-- The hash that stands for an order reference in a key. -/
def hashOrderRef (core : Core) (orderRef : Int32) : UInt32 :=
  core.hash32 (toDecimal orderRef)

def getOrderRefKey (core : Core) (frontId sessionId orderRef : Int32) : UInt64 :=
  ((frontSessionId frontId sessionId).toUInt64 <<< 32) ||| (hashOrderRef core orderRef).toUInt64

/-! ## What equal keys have in common -/

/-- The half of a front or session id that a key keeps. -/
def low16 (x : Int32) : UInt16 := x.toUInt32.toUInt16

theorem packed_inj {a a' b b' : UInt32} :
    (a.toUInt64 <<< 32) ||| b.toUInt64 = (a'.toUInt64 <<< 32) ||| b'.toUInt64 ↔
      a = a' ∧ b = b' := by
  have htoNat : ∀ x y : UInt32,
      ((x.toUInt64 <<< 32) ||| y.toUInt64).toNat = x.toNat <<< 32 ||| y.toNat := by
    intro x y
    have hx := x.toNat_lt
    have h32 : (32 : UInt64).toNat % 64 = 32 := by decide
    rw [UInt64.toNat_or, UInt64.toNat_shiftLeft, UInt32.toNat_toUInt64, UInt32.toNat_toUInt64, h32,
      Nat.mod_eq_of_lt (by rw [Nat.shiftLeft_eq]; omega)]
  rw [← UInt64.toNat_inj, htoNat, htoNat, Nat.shiftLeft_or_inj b.toNat_lt b'.toNat_lt,
    UInt32.toNat_inj, UInt32.toNat_inj]

theorem frontSessionId_inj {f f' s s' : Int32} :
    frontSessionId f s = frontSessionId f' s' ↔ low16 f = low16 f' ∧ low16 s = low16 s' := by
  have htoNat : ∀ x y : Int32,
      (frontSessionId x y).toNat = (low16 x).toNat <<< 16 ||| (low16 y).toNat := by
    intro x y
    have h16 : (16 : UInt32).toNat % 32 = 16 := by decide
    have hshift : x.toUInt32.toNat <<< 16 % 2 ^ 32 = (x.toUInt32.toNat % 2 ^ 16) <<< 16 := by
      rw [Nat.shiftLeft_eq, Nat.shiftLeft_eq]
      omega
    rw [frontSessionId, low16, low16, UInt32.toNat_or, UInt32.toNat_shiftLeft, h16, hshift,
      UInt16.toNat_toUInt32, UInt32.toNat_toUInt16, UInt32.toNat_toUInt16]
  have hlt : ∀ y : Int32, (low16 y).toNat < 2 ^ 16 := fun y => (low16 y).toNat_lt
  rw [← UInt32.toNat_inj, htoNat, htoNat, Nat.shiftLeft_or_inj (hlt s) (hlt s'),
    UInt16.toNat_inj, UInt16.toNat_inj]

/-- A reference key keeps the low halves of front and session id and the hash of the
reference, and nothing else. -/
theorem getOrderRefKey_inj {core : Core} {f f' s s' r r' : Int32} :
    getOrderRefKey core f s r = getOrderRefKey core f' s' r' ↔
      (low16 f = low16 f' ∧ low16 s = low16 s') ∧ hashOrderRef core r = hashOrderRef core r' := by
  rw [getOrderRefKey, getOrderRefKey, packed_inj, frontSessionId_inj]

theorem low16_toNat (x : Int32) : ((low16 x).toNat : Int) = x.toInt % 2 ^ 16 := by
  have hnat : (low16 x).toNat = x.toBitVec.toNat % 2 ^ 16 := by
    rw [low16, UInt32.toNat_toUInt16]
    rfl
  have hint : x.toInt = (x.toBitVec.toNat : Int).bmod (2 ^ 32) := x.toBitVec.toInt_eq_toNat_bmod
  have hlt : x.toBitVec.toNat < 2 ^ 32 := x.toBitVec.isLt
  rw [hnat, hint, Int.bmod_def]
  split <;> omega

/-- An id in a range of 2^16 values is given by the half that a key keeps. -/
theorem eq_of_low16_eq {x y : Int32} {lo : Int} (hx : lo ≤ x.toInt ∧ x.toInt < lo + 2 ^ 16)
    (hy : lo ≤ y.toInt ∧ y.toInt < lo + 2 ^ 16) (h : low16 x = low16 y) : x = y := by
  have hmod : x.toInt % 2 ^ 16 = y.toInt % 2 ^ 16 := by
    rw [← low16_toNat, ← low16_toNat, h]
  apply Int32.toInt_inj.mp
  omega

theorem getOrderSysIdKey_inj {core : Core} {x x' : TTORATstpExchangeIDType} {n n' : CharBuf} :
    getOrderSysIdKey core x n = getOrderSysIdKey core x' n' ↔
      core.hash32 [x] = core.hash32 [x'] ∧ core.hash32 n = core.hash32 n' := by
  rw [getOrderSysIdKey, getOrderSysIdKey, packed_inj]

end KungfuTora
