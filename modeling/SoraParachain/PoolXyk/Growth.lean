import SoraParachain.PoolXyk.InitializeSpec

/-!
# What no call takes back

The DEXes and the modes of the permissions never change.  Assets stay in
existence, technical accounts stay registered, pairs stay enabled and whoever
holds a permission keeps it.
-/

namespace SoraParachain

variable {T : Config}

open Technical (techAccountIdToAccountId IsRegistered)

/-- The later storage keeps everything that is only ever added to. -/
structure Extends (s s' : Storage T) : Prop where
  dexInfos : s'.dexInfos = s.dexInfos
  modes : s'.modes = s.modes
  assetExists : ∀ a, Assets.Exists s a → Assets.Exists s' a
  registered : ∀ techAcc, IsRegistered s techAcc → IsRegistered s' techAcc
  enabled : ∀ dexId pair, (s.enabledSources dexId pair).isSome = true →
    (s'.enabledSources dexId pair).isSome = true
  sources : ∀ dexId pair set, s.enabledSources dexId pair = some set →
    ∃ set', s'.enabledSources dexId pair = some set' ∧ set ⊆ set'
  markers : s.markerTokensIndex ⊆ s'.markerTokensIndex
  held : ∀ who scope p, p ∈ Permissions.held s who scope →
    p ∈ Permissions.held s' who scope

/-- The books of the assets may differ, and what is known of the reserves. -/
structure SameRecords (s s' : Storage T) : Prop where
  dexInfos : s'.dexInfos = s.dexInfos
  modes : s'.modes = s.modes
  assetOwners : s'.assetOwners = s.assetOwners
  techAccounts : s'.techAccounts = s.techAccounts
  enabledSources : s'.enabledSources = s.enabledSources
  markerTokensIndex : s'.markerTokensIndex = s.markerTokensIndex
  permissions : s'.permissions = s.permissions

theorem SameRecords.of_sameButRecords {s s' : Storage T}
    (h : PoolXyk.SameButRecords s s') : SameRecords s s' := by
  rw [PoolXyk.SameButRecords] at h
  rw [h]
  exact ⟨rfl, rfl, rfl, rfl, rfl, rfl, rfl⟩

namespace Extends

variable {s s' s'' : Storage T}

theorem refl (s : Storage T) : Extends s s :=
  ⟨rfl, rfl, fun _ h => h, fun _ h => h, fun _ _ h => h,
    fun _ _ set h => ⟨set, h, Finset.Subset.refl _⟩, Finset.Subset.refl _,
    fun _ _ _ h => h⟩

theorem trans (h : Extends s s') (h' : Extends s' s'') : Extends s s'' where
  dexInfos := h'.dexInfos.trans h.dexInfos
  modes := h'.modes.trans h.modes
  assetExists a ha := h'.assetExists a (h.assetExists a ha)
  registered t ht := h'.registered t (h.registered t ht)
  enabled dexId pair hp := h'.enabled dexId pair (h.enabled dexId pair hp)
  sources dexId pair set hset := by
    obtain ⟨set', hset', hle⟩ := h.sources dexId pair set hset
    obtain ⟨set'', hset'', hle'⟩ := h'.sources dexId pair set' hset'
    exact ⟨set'', hset'', hle.trans hle'⟩
  markers := h.markers.trans h'.markers
  held who scope p hp := h'.held who scope p (h.held who scope p hp)

/-- Nothing is lost when the records are the same. -/
theorem of_sameRecords (h : SameRecords s s') : Extends s s' where
  dexInfos := h.dexInfos
  modes := h.modes
  assetExists a ha := by
    rw [Assets.Exists, h.assetOwners]
    exact ha
  registered t ht := by
    rw [IsRegistered, h.techAccounts]
    exact ht
  enabled dexId pair hp := by
    rw [h.enabledSources]
    exact hp
  sources dexId pair set hset := by
    rw [h.enabledSources]
    exact ⟨set, hset, Finset.Subset.refl _⟩
  markers := by rw [h.markerTokensIndex]
  held who scope p hp := by
    rw [Permissions.held, h.permissions]
    exact hp

theorem of_registered {assetId : T.AssetId} {owner : T.AccountId}
    {initialSupply : ℕ} {isMintable : Bool}
    (h : Assets.Registered assetId owner initialSupply isMintable s s') :
    Extends s s' where
  dexInfos := by rw [h.frame]
  modes := h.modes
  assetExists a ha := by
    have hne : a ≠ assetId := by
      rintro rfl
      exact h.fresh ha
    rw [Assets.Exists, h.assetOwners, Function.update_of_ne hne]
    exact ha
  registered t ht := by
    rw [IsRegistered, h.frame]
    exact ht
  enabled dexId pair hp := by
    rw [h.frame]
    exact hp
  sources dexId pair set hset := by
    rw [h.frame]
    exact ⟨set, hset, Finset.Subset.refl _⟩
  markers := by rw [h.frame]
  held := h.held

end Extends

theorem isSome_insert₂ {α β γ : Type} [DecidableEq α] [DecidableEq β]
    {m : α → β → Option γ} {a x : α} {b y : β} {c : γ}
    (h : (m x y).isSome = true) :
    (insert₂ m a b (some c) x y).isSome = true := by
  unfold insert₂
  split_ifs
  · rfl
  · exact h

/-- A cell that grows or was empty leaves every set contained in its
successor. -/
theorem subset_insert₂ {α β γ : Type} [DecidableEq α] [DecidableEq β]
    {m : α → β → Option (Finset γ)} {a x : α} {b y : β} {c set : Finset γ}
    (hgrow : ∀ old, m a b = some old → old ⊆ c) (h : m x y = some set) :
    ∃ set', insert₂ m a b (some c) x y = some set' ∧ set ⊆ set' := by
  unfold insert₂
  split_ifs with heq
  · obtain ⟨rfl, rfl⟩ := heq
    exact ⟨c, rfl, hgrow set h⟩
  · exact ⟨set, h, Finset.Subset.refl _⟩

theorem isSome_update {α γ : Type} [DecidableEq α] {m : α → Option γ}
    {a x : α} {c : γ} (h : (m x).isSome = true) :
    (Function.update m a (some c) x).isSome = true := by
  by_cases hx : x = a
  · subst hx
    rw [Function.update_self]
    rfl
  · rw [Function.update_of_ne hx]
    exact h

namespace Extends

variable {s s' : Storage T} {who : T.AccountId} {dexId : T.DEXId}

theorem of_register {baseAssetId targetAssetId : T.AssetId} {u : Unit}
    (h : (TradingPair.register who dexId baseAssetId targetAssetId).run s =
      (.ok u, s')) :
    Extends s s' := by
  obtain ⟨-, hfresh⟩ := TradingPair.fresh_of_register h
  obtain ⟨-, -, rfl⟩ := TradingPair.run_register_ok h
  have hbase : Extends s s := refl s
  have hgrow : ∀ old,
      s.enabledSources dexId ⟨baseAssetId, targetAssetId⟩ = some old →
        old ⊆ ∅ := by
    intro old hold
    rw [hfresh] at hold
    cases hold
  exact { hbase with
    enabled := fun _ _ hp => isSome_insert₂ hp
    sources := fun _ _ _ hset => subset_insert₂ hgrow hset }

theorem of_initialized {assetA assetB marker : T.AssetId}
    {techAcc feeAcc : TechAccountIdOf T}
    (h : PoolXyk.Initialized s s' who dexId assetA assetB techAcc feeAcc
      marker) :
    Extends s s' where
  dexInfos := h.dexInfos
  modes := h.modes
  assetExists a ha := by
    have hne : a ≠ marker := by
      rintro rfl
      exact h.fresh ha
    rw [Assets.Exists, h.assetOwners, Function.update_of_ne hne]
    exact ha
  registered t ht := by
    rw [IsRegistered, h.techAccounts]
    exact isSome_update (isSome_update ht)
  enabled dexId pair hp := by
    obtain ⟨set, -, hset⟩ := h.sources
    rw [hset]
    exact isSome_insert₂ hp
  sources dexId pair set hp := by
    obtain ⟨old, hold, hset⟩ := h.sources
    rw [hset]
    refine subset_insert₂ ?_ hp
    intro old' hold'
    rw [hold] at hold'
    cases hold'
    exact Finset.subset_insert _ _
  markers := by
    rw [h.markerTokensIndex]
    exact Finset.subset_insert _ _
  held := h.held

end Extends

/-- A step keeps the records, registers an asset, registers a pair or opens a
pool. -/
theorem step_records_or (s : Storage T) (x : Extrinsic T) :
    SameRecords s (step s x) ∨
      (∃ initialSupply isMintable, Assets.Registered
        (Assets.genAssetId s x.1.account) x.1.account initialSupply isMintable s
          (step s x)) ∨
      (∃ dexId baseAssetId targetAssetId,
        (TradingPair.register x.1.account dexId baseAssetId targetAssetId).run
          s = (.ok (), step s x)) ∨
      ∃ dexId assetA assetB techAcc feeAcc marker,
        x.2 = .initializePool dexId assetA assetB ∧
          PoolXyk.Initialized s (step s x) x.1.account dexId assetA assetB
            techAcc feeAcc marker := by
  obtain ⟨who, call⟩ := x
  rcases step_succeeds_or s (who, call) with h | h
  · generalize step s (who, call) = s' at h ⊢
    cases call with
    | assetsRegister symbol name initialSupply isMintable =>
        exact Or.inr (Or.inl ⟨_, _, Assets.registered_of_register h⟩)
    | assetsTransfer assetId dest amount =>
        obtain ⟨-, -, l, -, rfl⟩ := Assets.run_transferFrom_ok.mp h
        exact Or.inl ⟨rfl, rfl, rfl, rfl, rfl, rfl, rfl⟩
    | assetsMint assetId dest amount =>
        obtain ⟨-, -, -, l, -, rfl⟩ := Assets.run_mintTo_ok.mp h
        exact Or.inl ⟨rfl, rfl, rfl, rfl, rfl, rfl, rfl⟩
    | assetsBurn assetId amount =>
        obtain ⟨-, -, l, -, rfl⟩ := Assets.run_burnFrom_ok.mp h
        exact Or.inl ⟨rfl, rfl, rfl, rfl, rfl, rfl, rfl⟩
    | assetsSetNonMintable assetId =>
        obtain ⟨-, -, rfl⟩ := Assets.run_setNonMintable_ok.mp h
        exact Or.inl ⟨rfl, rfl, rfl, rfl, rfl, rfl, rfl⟩
    | tradingPairRegister dexId baseAssetId targetAssetId =>
        exact Or.inr (Or.inr (Or.inl ⟨_, _, _, h⟩))
    | initializePool dexId assetA assetB =>
        obtain ⟨techAcc, feeAcc, marker, hinit⟩ := PoolXyk.initialized_of_run h
        exact Or.inr (Or.inr (Or.inr ⟨_, _, _, _, _, _, rfl, hinit⟩))
    | depositLiquidity dexId assetA assetB aDesired bDesired aMin bMin =>
        obtain ⟨techAcc, mark, t, l, l', -, -, -, rfl⟩ :=
          PoolXyk.run_depositLiquidity_ok.mp h
        exact Or.inl ⟨rfl, rfl, rfl, rfl, rfl, rfl, rfl⟩
    | withdrawLiquidity dexId assetA assetB k aMin bMin =>
        obtain ⟨techAcc, mark, t, l, l', -, -, rfl⟩ :=
          PoolXyk.run_withdrawLiquidity_ok.mp h
        exact Or.inl ⟨rfl, rfl, rfl, rfl, rfl, rfl, rfl⟩
    | swapPair receiver dexId assetA assetB swapAmount =>
        obtain ⟨techAcc, t, l, -, -, rfl⟩ := PoolXyk.run_swapPair_ok.mp h
        exact Or.inl ⟨rfl, rfl, rfl, rfl, rfl, rfl, rfl⟩
    | createSwap action =>
        cases action with
        | pairSwap a =>
            obtain ⟨-, t, l, -, rfl⟩ :=
              PoolXyk.run_performCreateSwap_pairSwap_ok.mp h
            exact Or.inl ⟨rfl, rfl, rfl, rfl, rfl, rfl, rfl⟩
        | depositLiquidity a =>
            obtain ⟨-, t, l, l', -, rfl⟩ :=
              PoolXyk.run_performCreateSwap_depositLiquidity_ok.mp h
            exact Or.inl ⟨rfl, rfl, rfl, rfl, rfl, rfl, rfl⟩
        | withdrawLiquidity a =>
            obtain ⟨-, t, l, l', -, rfl⟩ :=
              PoolXyk.run_performCreateSwap_withdrawLiquidity_ok.mp h
            exact Or.inl ⟨rfl, rfl, rfl, rfl, rfl, rfl, rfl⟩
  · exact Or.inl (.of_sameButRecords h)

/-- No step takes anything back. -/
theorem step_extends (s : Storage T) (x : Extrinsic T) :
    Extends s (step s x) := by
  rcases step_records_or s x with hsame | ⟨_, _, hasset⟩ | ⟨_, _, _, hpair⟩ |
    ⟨_, _, _, _, _, _, -, hpool⟩
  · exact .of_sameRecords hsame
  · exact .of_registered hasset
  · exact .of_register hpair
  · exact .of_initialized hpool

/-- Nor does a run. -/
theorem runs_extends (s : Storage T) (extrinsics : List (Extrinsic T)) :
    Extends s (runs s extrinsics) := by
  induction extrinsics generalizing s with
  | nil => exact .refl s
  | cons x rest ih => exact (step_extends s x).trans (ih (step s x))

end SoraParachain
