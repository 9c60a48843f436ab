import SoraParachain.Mock
import SoraParachain.PoolXyk.Utils

/-!
# The cell of two assets

Two functions put the assets of a pool in order, each with cases of its own, to
find the cell of `Reserves` and that of `Properties`.  As long as different assets
have different hashes, the order that the assets are passed in does not matter,
and both functions find the same cell.
-/

namespace SoraParachain
namespace PoolXyk

variable {T : Config}

/-! ## Case by case -/

/-- The reserves map as it is written, with the values exchanged by hand where
the base asset comes second. -/
def reservesInCases (reserves : T.AssetId → T.AssetId → ℕ × ℕ)
    (assetA assetB : T.AssetId) (balancePair : ℕ × ℕ) :
    T.AssetId → T.AssetId → ℕ × ℕ :=
  if T.getBaseAssetId = assetA then
    insert₂ reserves assetA assetB (balancePair.1, balancePair.2)
  else if T.getBaseAssetId = assetB then
    insert₂ reserves assetB assetA (balancePair.2, balancePair.1)
  else
    let hashKey := commMerkleOp T.hashAssetIdPair assetA assetB
    let (pairU, pairV) := sortWithHashKey T.hashAssetId hashKey
      (assetA, balancePair.1) (assetB, balancePair.2)
    insert₂ reserves pairU.1 pairV.1 (pairU.2, pairV.2)

/-- The assets in the order that properties are entered under. -/
def propertiesKeysInCases (assetA assetB : T.AssetId) :
    T.AssetId × T.AssetId :=
  if T.getBaseAssetId = assetA then (assetA, assetB)
  else if T.getBaseAssetId = assetB then (assetB, assetA)
  else
    let hashKey := commMerkleOp T.hashAssetIdPair assetA assetB
    let (assetAPair, assetBPair) := sortWithHashKey T.hashAssetId hashKey
      (assetA, ()) (assetB, ())
    (assetAPair.1, assetBPair.1)

def updateReservesInCases (assetA assetB : T.AssetId) (balancePair : ℕ × ℕ) :
    Exec T Unit :=
  Tx.modify fun s =>
    { s with
      reserves := reservesInCases s.reserves assetA assetB balancePair }

def initializePoolPropertiesInCases (dexId : T.DEXId)
    (assetA assetB : T.AssetId) (reservesAccountId feesAccountId : T.AccountId)
    (markerAssetId : T.AssetId) : Exec T Unit := do
  let (sortedAssetA, sortedAssetB) := propertiesKeysInCases assetA assetB
  TradingPair.enableSourceForTradingPair dexId sortedAssetA sortedAssetB
    .xykPool
  Tx.modify fun s =>
    { s with
      properties := insert₂ s.properties sortedAssetA sortedAssetB
        (some (reservesAccountId, feesAccountId, markerAssetId)) }

section

variable {assetA assetB : T.AssetId} {balancePair : ℕ × ℕ}

theorem reservesInCases_eq (reserves : T.AssetId → T.AssetId → ℕ × ℕ) :
    reservesInCases reserves assetA assetB balancePair =
      enterReserves reserves assetA assetB balancePair := by
  unfold enterReserves reservesInCases sortAssets
  split_ifs
  · rfl
  · rfl
  · rfl

theorem updateReservesInCases_eq :
    updateReservesInCases assetA assetB balancePair =
      updateReserves assetA assetB balancePair := by
  unfold updateReservesInCases updateReserves
  simp only [reservesInCases_eq]

theorem propertiesKeysInCases_eq :
    propertiesKeysInCases assetA assetB =
      ((sortAssets (assetA, ()) (assetB, ())).1.1,
        (sortAssets (assetA, ()) (assetB, ())).2.1) := by
  unfold propertiesKeysInCases sortAssets
  split_ifs
  · rfl
  · rfl
  · rfl

theorem initializePoolPropertiesInCases_eq {dexId : T.DEXId}
    {reservesAccountId feesAccountId : T.AccountId}
    {markerAssetId : T.AssetId} :
    initializePoolPropertiesInCases dexId assetA assetB reservesAccountId
        feesAccountId markerAssetId =
      initializePoolProperties dexId assetA assetB reservesAccountId
        feesAccountId markerAssetId := by
  rw [initializePoolPropertiesInCases, propertiesKeysInCases_eq]
  rfl

end

/-! ## The order of the arguments -/

section

variable {assetA assetB : T.AssetId}

/-- Different assets are sorted the same way in either order. -/
theorem sortAssets_comm {β : Type} (hhash : Function.Injective T.hashAssetId)
    {pairA pairB : T.AssetId × β} (hne : pairA.1 ≠ pairB.1) :
    sortAssets pairA pairB = sortAssets pairB pairA := by
  unfold sortAssets
  by_cases hA : T.getBaseAssetId = pairA.1
  · have hB : T.getBaseAssetId ≠ pairB.1 := fun hB => hne (hA.symm.trans hB)
    rw [if_pos hA, if_neg hB, if_pos hA]
  · by_cases hB : T.getBaseAssetId = pairB.1
    · rw [if_neg hA, if_pos hB, if_pos hB]
    · rw [if_neg hA, if_neg hB, if_neg hB, if_neg hA,
        commMerkleOp_comm T.hashAssetIdPair pairB.1 pairA.1]
      exact sortWithHashKey_comm _ (hhash.ne hne)

theorem reservesInCases_comm (hhash : Function.Injective T.hashAssetId)
    (hne : assetA ≠ assetB) (reserves : T.AssetId → T.AssetId → ℕ × ℕ)
    (p q : ℕ) :
    reservesInCases reserves assetA assetB (p, q) =
      reservesInCases reserves assetB assetA (q, p) := by
  have hsort : sortAssets (assetA, p) (assetB, q) =
      sortAssets (assetB, q) (assetA, p) := sortAssets_comm hhash hne
  rw [reservesInCases_eq, reservesInCases_eq, enterReserves, enterReserves]
  dsimp only
  rw [hsort]

theorem propertiesKeysInCases_comm (hhash : Function.Injective T.hashAssetId)
    (hne : assetA ≠ assetB) :
    propertiesKeysInCases assetA assetB =
      propertiesKeysInCases assetB assetA := by
  have hsort : sortAssets (assetA, ()) (assetB, ()) =
      sortAssets (assetB, ()) (assetA, ()) := sortAssets_comm hhash hne
  rw [propertiesKeysInCases_eq, propertiesKeysInCases_eq, hsort]

/-- Each balance is entered with its asset, under the keys of the properties. -/
theorem reservesInCases_eq_insert (assetA assetB : T.AssetId)
    (reserves : T.AssetId → T.AssetId → ℕ × ℕ) (p q : ℕ) :
    propertiesKeysInCases assetA assetB = (assetA, assetB) ∧
        reservesInCases reserves assetA assetB (p, q) =
          insert₂ reserves assetA assetB (p, q) ∨
      propertiesKeysInCases assetA assetB = (assetB, assetA) ∧
        reservesInCases reserves assetA assetB (p, q) =
          insert₂ reserves assetB assetA (q, p) := by
  unfold propertiesKeysInCases reservesInCases sortWithHashKey
  by_cases hA : T.getBaseAssetId = assetA
  · rw [if_pos hA, if_pos hA]
    exact Or.inl ⟨rfl, rfl⟩
  · rw [if_neg hA, if_neg hA]
    by_cases hB : T.getBaseAssetId = assetB
    · rw [if_pos hB, if_pos hB]
      exact Or.inr ⟨rfl, rfl⟩
    · rw [if_neg hB, if_neg hB]
      dsimp only
      split_ifs
      · exact Or.inl ⟨rfl, rfl⟩
      · exact Or.inr ⟨rfl, rfl⟩

theorem properties_of_initializeInCases {dexId : T.DEXId}
    {reservesAccountId feesAccountId : T.AccountId}
    {markerAssetId : T.AssetId} {s s' : Storage T}
    (h : (initializePoolPropertiesInCases dexId assetA assetB
      reservesAccountId feesAccountId markerAssetId).run s = (.ok (), s')) :
    s'.properties = insert₂ s.properties (propertiesKeysInCases assetA assetB).1
      (propertiesKeysInCases assetA assetB).2
      (some (reservesAccountId, feesAccountId, markerAssetId)) := by
  obtain ⟨_, s₁, henable, h⟩ := Tx.run_bind_eq_ok.mp h
  obtain ⟨_, -, rfl⟩ := TradingPair.run_enableSourceForTradingPair_ok henable
  rw [Tx.run_modify] at h
  cases h
  rfl

/-- Either order of two assets writes the balances to the same cell, and its keys
are those under which either order enters the properties. -/
theorem pool_cell_independent_of_order
    (hhash : Function.Injective T.hashAssetId) (hne : assetA ≠ assetB)
    (p q : ℕ) (s : Storage T) :
    (updateReservesInCases assetA assetB (p, q)).run s =
        (updateReservesInCases assetB assetA (q, p)).run s ∧
      ∃ u v, (u = (assetA, p) ∧ v = (assetB, q) ∨
          u = (assetB, q) ∧ v = (assetA, p)) ∧
        (updateReservesInCases assetA assetB (p, q)).run s =
          (.ok (), { s with
            reserves := insert₂ s.reserves u.1 v.1 (u.2, v.2) }) ∧
        ∀ dexId reservesAccountId feesAccountId markerAssetId s₁ s₂,
          (initializePoolPropertiesInCases dexId assetA assetB
                reservesAccountId feesAccountId markerAssetId).run s₁ =
              (.ok (), s₂) ∨
            (initializePoolPropertiesInCases dexId assetB assetA
                reservesAccountId feesAccountId markerAssetId).run s₁ =
              (.ok (), s₂) →
          s₂.properties = insert₂ s₁.properties u.1 v.1
            (some (reservesAccountId, feesAccountId, markerAssetId)) := by
  have hcomm := propertiesKeysInCases_comm hhash hne
  refine ⟨?_, ?_⟩
  · unfold updateReservesInCases
    simp only [reservesInCases_comm hhash hne]
  · rcases reservesInCases_eq_insert assetA assetB s.reserves p q with
      ⟨hkeys, hreserves⟩ | ⟨hkeys, hreserves⟩
    · refine ⟨(assetA, p), (assetB, q), Or.inl ⟨rfl, rfl⟩, ?_, ?_⟩
      · rw [updateReservesInCases, Tx.run_modify, hreserves]
      · rintro dexId r f m s₁ s₂ (h | h)
        · rw [properties_of_initializeInCases h, hkeys]
        · rw [properties_of_initializeInCases h, ← hcomm, hkeys]
    · refine ⟨(assetB, q), (assetA, p), Or.inr ⟨rfl, rfl⟩, ?_, ?_⟩
      · rw [updateReservesInCases, Tx.run_modify, hreserves]
      · rintro dexId r f m s₁ s₂ (h | h)
        · rw [properties_of_initializeInCases h, hkeys]
        · rw [properties_of_initializeInCases h, ← hcomm, hkeys]

end

/-- Neither of the two peppers is the base asset. -/
theorem pool_cell_independent_of_order_peppers :
    (updateReservesInCases (T := Mock.runtime) Mock.redPepper Mock.blackPepper
          (1, 2)).run Mock.genesis =
        (updateReservesInCases (T := Mock.runtime) Mock.blackPepper
          Mock.redPepper (2, 1)).run Mock.genesis ∧
      ∃ u v, (u = (Mock.redPepper, 1) ∧ v = (Mock.blackPepper, 2) ∨
          u = (Mock.blackPepper, 2) ∧ v = (Mock.redPepper, 1)) ∧
        (updateReservesInCases (T := Mock.runtime) Mock.redPepper
            Mock.blackPepper (1, 2)).run Mock.genesis =
          (.ok (), { Mock.genesis with
            reserves := insert₂ Mock.genesis.reserves u.1 v.1 (u.2, v.2) }) ∧
        ∀ dexId reservesAccountId feesAccountId markerAssetId s₁ s₂,
          (initializePoolPropertiesInCases (T := Mock.runtime) dexId
                Mock.redPepper Mock.blackPepper reservesAccountId feesAccountId
                markerAssetId).run s₁ = (.ok (), s₂) ∨
            (initializePoolPropertiesInCases (T := Mock.runtime) dexId
                Mock.blackPepper Mock.redPepper reservesAccountId feesAccountId
                markerAssetId).run s₁ = (.ok (), s₂) →
          s₂.properties = insert₂ s₁.properties u.1 v.1
            (some (reservesAccountId, feesAccountId, markerAssetId)) := by
  have hhash : Function.Injective Mock.runtime.hashAssetId := by
    intro a b h
    exact Nat.eq_of_mul_eq_mul_left Nat.zero_lt_two h
  exact pool_cell_independent_of_order hhash (by decide) 1 2 Mock.genesis

end PoolXyk
end SoraParachain
