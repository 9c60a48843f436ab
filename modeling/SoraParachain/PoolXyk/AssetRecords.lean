import SoraParachain.PoolXyk.AssetAuthority

/-!
# The records of assets

What is recorded of an asset was checked when it was registered and stays as it
is: its owner, its symbol, its name and its precision.  Only its mintability may
end, and only its owner can end it.
-/

namespace SoraParachain
namespace Assets

variable {T : Config}

open PoolXyk (granted_of_run)

/-- A record that a registration accepts. -/
structure ValidInfo (info : AssetInfo) : Prop where
  symbol : isSymbolValid info.symbol = true
  name : isNameValid info.name = true
  precision : info.precision ≤ maxAllowedPrecision

/-- The record of an asset that can be minted no more. -/
def frozen (info : AssetInfo) : AssetInfo :=
  { info with isMintable := false }

/-- The record is the one given, or it is that one frozen. -/
def IsRecord (info : AssetInfo) (s : Storage T) (a : T.AssetId) : Prop :=
  s.assetInfos a = info ∨ s.assetInfos a = frozen info

/-- Every asset that exists has a valid record. -/
def AllValid (s : Storage T) : Prop :=
  ∀ a, Exists s a → ValidInfo (s.assetInfos a)

section

variable {s s' : Storage T} {x : Extrinsic T} {a : T.AssetId}

theorem ValidInfo.of_isRecord {info : AssetInfo} (h : ValidInfo info)
    (hrecord : IsRecord info s a) : ValidInfo (s.assetInfos a) := by
  rcases hrecord with heq | heq
  · rw [heq]
    exact h
  · rw [heq]
    exact ⟨h.symbol, h.name, h.precision⟩

theorem Recorded.validInfo {assetId : T.AssetId} {owner : T.AccountId}
    {info : AssetInfo} (h : Recorded assetId owner info s s') :
    ValidInfo info :=
  ⟨h.symbol, h.name, h.precision⟩

/-- A new record leaves the other ones valid. -/
theorem AllValid.of_update (h : AllValid s) {assetId : T.AssetId}
    {owner : T.AccountId} {info : AssetInfo} (hinfo : ValidInfo info)
    (howners : s'.assetOwners = Function.update s.assetOwners assetId owner)
    (hinfos : s'.assetInfos = Function.update s.assetInfos assetId info) :
    AllValid s' := by
  intro b hb
  rw [hinfos]
  by_cases heq : b = assetId
  · subst heq
    rw [Function.update_self]
    exact hinfo
  · rw [Exists, howners, Function.update_of_ne heq] at hb
    rw [Function.update_of_ne heq]
    exact h b hb

/-! ## What a step does to records -/

/-- A step leaves the owner of an asset, and its record unless the owner froze
it. -/
theorem record_of_step (hexists : Exists s a) :
    (step s x).assetOwners a = s.assetOwners a ∧
      ((step s x).assetInfos a = s.assetInfos a ∨
        s.assetOwners a = x.1.account ∧
          (step s x).assetInfos a = frozen (s.assetInfos a)) := by
  cases step_call s x with
  | settled h =>
      refine ⟨by rw [h.frame], ?_⟩
      rcases h.assetInfos a with hsame | ⟨howner, hfrozen⟩
      · exact Or.inl hsame
      · rw [isAssetOwner, assetOwner, if_neg hexists, decide_eq_true_iff]
          at howner
        exact Or.inr ⟨howner, hfrozen⟩
  | asset symbol name initialSupply isMintable h =>
      have hasset := registered_of_register h
      have hne : a ≠ genAssetId s x.1.account := by
        rintro rfl
        exact hasset.fresh hexists
      refine ⟨?_, Or.inl (hasset.assetInfos a hne)⟩
      rw [hasset.assetOwners, Function.update_of_ne hne]
  | pair dexId baseAssetId targetAssetId h =>
      obtain ⟨-, -, hstep⟩ := TradingPair.run_register_ok h
      rw [hstep]
      exact ⟨rfl, Or.inl rfl⟩
  | pool dexId assetA assetB h =>
      obtain ⟨techAcc, feeAcc, marker, hinit⟩ := PoolXyk.initialized_of_run h
      have hne : a ≠ marker := by
        rintro rfl
        exact hinit.fresh hexists
      refine ⟨?_, Or.inl (hinit.assetInfos a hne)⟩
      rw [hinit.assetOwners, Function.update_of_ne hne]

theorem AllValid.step (h : AllValid s) : AllValid (step s x) := by
  cases step_call s x with
  | settled hsettled =>
      intro a ha
      have hexists : Exists s a := by
        rw [Exists, hsettled.frame] at ha
        exact ha
      refine (h a hexists).of_isRecord ?_
      exact (hsettled.assetInfos a).imp_right And.right
  | asset symbol name initialSupply isMintable hrun =>
      have hrecorded := recorded_of_register hrun
      exact h.of_update hrecorded.validInfo
        (registered_of_register hrun).assetOwners hrecorded.assetInfos
  | pair dexId baseAssetId targetAssetId hrun =>
      obtain ⟨-, -, hstep⟩ := TradingPair.run_register_ok hrun
      rw [hstep]
      exact h
  | pool dexId assetA assetB hrun =>
      obtain ⟨techAcc, feeAcc, marker, hinit, hgranted⟩ := granted_of_run hrun
      obtain ⟨s₁, s₂, -, hsame, hrecorded, hinfos⟩ := hgranted.recorded
      rw [hrecorded.assetInfos, hsame] at hinfos
      exact h.of_update hrecorded.validInfo hinit.assetOwners hinfos

end

/-! ## From the genesis on -/

theorem allValid_of_starts {g : GenesisConfig T} {s : Storage T}
    (hstarts : g.Starts s) : AllValid s := by
  obtain ⟨ledger, system, s₁, s₂, hpermissions, hassets, hsame, -⟩ :=
    hstarts.parts
  have hframe :=
    (GenesisConfig.sameButPermissions_build g.permissions).of_run hpermissions
  have hnone : AllValid s₁ := by
    intro a ha
    rw [Exists, hframe] at ha
    exact absurd rfl ha
  have hbuilt : AllValid s₂ := by
    refine Tx.forM_invariant (I := AllValid) (fun asset _ s s' hrun hs => ?_)
      hassets hnone
    have hregister := Tx.run_orFail_eq_ok.mp hrun
    have hrecorded := recorded_of_registerAssetId hregister
    exact hs.of_update hrecorded.validInfo
      (registered_of_registerAssetId hregister).assetOwners
      hrecorded.assetInfos
  intro a ha
  rw [hsame.assetInfos]
  refine hbuilt a ?_
  rw [Exists, ← hsame.assetOwners]
  exact ha

/-- After the genesis of a chain and any run, an asset that exists has a valid
record.  However the run goes on, the asset keeps its owner and its record, of
which only the mintability may end, and the record stays as it is while its
owner signs nothing. -/
theorem asset_records_stay {g : GenesisConfig T} {genesis : Storage T}
    (hstarts : g.Starts genesis) (past future : List (Extrinsic T))
    {a : T.AssetId} (hexists : Exists (runs genesis past) a) :
    ValidInfo ((runs genesis past).assetInfos a) ∧
      (runs genesis (past ++ future)).assetOwners a =
        (runs genesis past).assetOwners a ∧
      IsRecord ((runs genesis past).assetInfos a)
        (runs genesis (past ++ future)) a ∧
      ((∀ x ∈ future, x.1.account ≠ (runs genesis past).assetOwners a) →
        (runs genesis (past ++ future)).assetInfos a =
          (runs genesis past).assetInfos a) := by
  have hvalid : AllValid (runs genesis past) :=
    runAll_invariant (fun _ _ hs _ => hs.step) past genesis
      (allValid_of_starts hstarts)
      (along_of_forall_mem fun _ _ => trivial : Along step (fun _ _ => True)
        genesis past)
  have hsplit : runs genesis (past ++ future) =
      runs (runs genesis past) future := List.foldl_append
  rw [hsplit]
  generalize runs genesis past = s at hexists hvalid ⊢
  have hrecord : (runs s future).assetOwners a = s.assetOwners a ∧
      IsRecord (s.assetInfos a) (runs s future) a := by
    refine runAll_invariant (P := fun _ _ => True) (I := fun s' =>
      s'.assetOwners a = s.assetOwners a ∧ IsRecord (s.assetInfos a) s' a)
      (fun s' x hs _ => ?_) future s ⟨rfl, Or.inl rfl⟩
      (along_of_forall_mem fun _ _ => trivial)
    obtain ⟨howner, hinfo⟩ := hs
    have hexists' : Exists s' a := by
      rw [Exists, howner]
      exact hexists
    obtain ⟨howner', hinfo'⟩ := record_of_step (x := x) hexists'
    refine ⟨howner'.trans howner, ?_⟩
    rcases hinfo' with hsame | ⟨-, hfrozen⟩
    · rw [IsRecord, hsame]
      exact hinfo
    · rw [IsRecord, hfrozen]
      rcases hinfo with hinfo | hinfo
      · exact Or.inr (by rw [hinfo])
      · exact Or.inr (by rw [hinfo]; rfl)
  refine ⟨hvalid a hexists, hrecord.1, hrecord.2, fun hothers => ?_⟩
  have hkept : (runs s future).assetOwners a = s.assetOwners a ∧
      (runs s future).assetInfos a = s.assetInfos a := by
    refine runAll_invariant (P := fun _ x => x.1.account ≠ s.assetOwners a)
      (I := fun s' => s'.assetOwners a = s.assetOwners a ∧
        s'.assetInfos a = s.assetInfos a)
      (fun s' x hs hx => ?_) future s ⟨rfl, rfl⟩ (along_of_forall_mem hothers)
    obtain ⟨howner, hinfo⟩ := hs
    have hexists' : Exists s' a := by
      rw [Exists, howner]
      exact hexists
    obtain ⟨howner', hinfo'⟩ := record_of_step (x := x) hexists'
    refine ⟨howner'.trans howner, ?_⟩
    rcases hinfo' with hsame | ⟨hsigner, -⟩
    · exact hsame.trans hinfo
    · exact absurd (hsigner.symm.trans howner) hx
  exact hkept.2

/-- Alice ends the mintability of an asset that she owns from the start. -/
theorem asset_records_stay_sample :
    ValidInfo ((runs PoolXyk.pepperChain []).assetInfos Mock.redPepper) ∧
      IsRecord ((runs PoolXyk.pepperChain []).assetInfos Mock.redPepper)
        (runs PoolXyk.pepperChain
          [(Mock.alice, .assetsSetNonMintable Mock.redPepper)])
        Mock.redPepper := by
  have hrecord := asset_records_stay (T := Mock.runtime)
    PoolXyk.starts_pepperChain [] [(Mock.alice, .assetsSetNonMintable
      Mock.redPepper)] (by decide +kernel : Exists (runs PoolXyk.pepperChain [])
        Mock.redPepper)
  exact ⟨hrecord.1, hrecord.2.2.1⟩

end Assets
end SoraParachain
