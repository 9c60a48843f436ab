import SoraParachain.Common.FixedWrapper

/-!
# Primitive types shared by the pallets

Technical accounts are described before they are hashed: the account that keeps
the liquidity of a pair and the account that collects its fees differ in their
purpose only.
-/

namespace SoraParachain

/-- Balances are `u128`. -/
def balanceModulus : ℕ := 2 ^ 128

/-- `a - b` on `u128`, which wraps around in a release build. -/
def wrappingSub (a b : ℕ) : ℕ :=
  if b ≤ a then a - b else a + balanceModulus - b

theorem wrappingSub_of_le {a b : ℕ} (h : b ≤ a) :
    wrappingSub a b = a - b :=
  if_pos h

@[ext] structure TradingPair (AssetId : Type) where
  baseAssetId : AssetId
  targetAssetId : AssetId
  deriving DecidableEq

structure DEXInfo (AssetId : Type) where
  baseAssetId : AssetId
  isPublic : Bool
  deriving DecidableEq

inductive ManagementMode where
  | privateMode
  | publicMode
  deriving DecidableEq

inductive LiquiditySourceType where
  | xykPool
  | bondingCurvePool
  | multicollateralBondingCurvePool
  | mockPool
  | mockPool2
  | mockPool3
  | mockPool4
  deriving DecidableEq

inductive TechPurpose (AssetId : Type) where
  | feeCollector
  | feeCollectorForPair (tpair : TradingPair AssetId)
  | liquidityKeeper (tpair : TradingPair AssetId)
  | identifier (data : List UInt8)
  deriving DecidableEq

inductive TechAccountId (AccountId AssetId DEXId : Type) where
  | pure (dex : DEXId) (purpose : TechPurpose AssetId)
  | generic (tag data : List UInt8)
  | wrapped (a : AccountId)
  | wrappedRepr (a : AccountId)
  deriving DecidableEq

namespace TechAccountId

variable {AccountId AssetId DEXId : Type}

/-- The fee collector of the pair whose liquidity the account keeps. -/
def toFeeAccount :
    TechAccountId AccountId AssetId DEXId →
      Option (TechAccountId AccountId AssetId DEXId)
  | .pure dex (.liquidityKeeper tpair) =>
      some (.pure dex (.feeCollectorForPair tpair))
  | _ => none

/-- The account that keeps the liquidity of a pair on a DEX. -/
def toTechUnitFromDexAndTradingPair (dexId : DEXId)
    (tradingPair : TradingPair AssetId) :
    TechAccountId AccountId AssetId DEXId :=
  .pure dexId (.liquidityKeeper tradingPair)

@[simp] theorem toFeeAccount_toTechUnit (dexId : DEXId)
    (tradingPair : TradingPair AssetId) :
    (toTechUnitFromDexAndTradingPair dexId tradingPair :
        TechAccountId AccountId AssetId DEXId).toFeeAccount =
      some (.pure dexId (.feeCollectorForPair tradingPair)) := rfl

/-- A fee account is never the account it was derived from. -/
theorem toFeeAccount_ne {t fee : TechAccountId AccountId AssetId DEXId}
    (h : t.toFeeAccount = some fee) :
    fee ≠ t := by
  rintro rfl
  unfold toFeeAccount at h
  split at h
  · simp at h
  · simp at h

/-- Nor is it the account of a pool. -/
theorem toFeeAccount_ne_toTechUnit
    {t : TechAccountId AccountId AssetId DEXId} {dexId : DEXId}
    {tradingPair : TradingPair AssetId} :
    t.toFeeAccount ≠
      some (toTechUnitFromDexAndTradingPair dexId tradingPair) := by
  intro h
  unfold toFeeAccount at h
  split at h
  · simp [toTechUnitFromDexAndTradingPair] at h
  · simp at h

end TechAccountId

inductive SwapAmount where
  | withDesiredInput (desiredAmountIn minAmountOut : ℕ)
  | withDesiredOutput (desiredAmountOut maxAmountIn : ℕ)
  deriving DecidableEq, Repr

structure SwapOutcome where
  amount : ℕ
  fee : ℕ
  deriving DecidableEq, Repr

inductive AssetIdExtraAssetRecordArg (DEXId LstId AccountId : Type) where
  | dexId (dex : DEXId)
  | lstId (lst : LstId)
  | accountId (account : AccountId)
  deriving DecidableEq

/-! ## Hashes

A 512-bit hash is the number its bytes spell. -/

abbrev H512 := ℕ

/-- `hash(a, b)` xor `hash(b, a)`, which does not depend on the order. -/
def commMerkleOp {α : Type} (hashPair : α → α → H512) (a b : α) : H512 :=
  hashPair a b ^^^ hashPair b a

/-- Order two keys, with the values attached to them, by a hash key. -/
def sortWithHashKey {α β : Type} (hash : α → H512) (hashKey : H512)
    (pairA pairB : α × β) : (α × β) × (α × β) :=
  if hashKey ^^^ hash pairA.1 < hashKey ^^^ hash pairB.1 then (pairA, pairB)
  else (pairB, pairA)

theorem commMerkleOp_comm {α : Type} (hashPair : α → α → H512) (a b : α) :
    commMerkleOp hashPair a b = commMerkleOp hashPair b a :=
  Nat.xor_comm _ _

/-- Sorting returns the two pairs, in one order or the other. -/
theorem sortWithHashKey_cases {α β : Type} (hash : α → H512)
    (hashKey : H512) (pairA pairB : α × β) :
    sortWithHashKey hash hashKey pairA pairB = (pairA, pairB) ∨
      sortWithHashKey hash hashKey pairA pairB = (pairB, pairA) := by
  unfold sortWithHashKey
  split
  · exact Or.inl rfl
  · exact Or.inr rfl

/-- Keys of different hashes are sorted the same way in either order. -/
theorem sortWithHashKey_comm {α β : Type} {hash : α → H512} (hashKey : H512)
    {pairA pairB : α × β} (hne : hash pairA.1 ≠ hash pairB.1) :
    sortWithHashKey hash hashKey pairA pairB =
      sortWithHashKey hash hashKey pairB pairA := by
  have hkeys : hashKey ^^^ hash pairA.1 ≠ hashKey ^^^ hash pairB.1 := by
    intro heq
    have hcancel := congrArg (hashKey ^^^ ·) heq
    simp only [← Nat.xor_assoc, Nat.xor_self, Nat.zero_xor] at hcancel
    exact hne hcancel
  unfold sortWithHashKey
  rcases lt_or_gt_of_ne hkeys with hlt | hlt
  · rw [if_pos hlt, if_neg hlt.not_gt]
  · rw [if_neg hlt.not_gt, if_pos hlt]

end SoraParachain
