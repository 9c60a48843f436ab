import SoraParachain.Common.AssetId32
import SoraParachain.Common.Primitives
import SoraParachain.Library.Scale

/-!
# Technical accounts as bytes and as accounts

A technical account is encoded kind by kind; its byte strings follow their
lengths.  The account that it is given starts with sixteen bytes that are the
same for all of them and goes on with two hashes of the encoding.
-/

namespace SoraParachain

/-- `AccountId32`. -/
abbrev AccountId32 : Type :=
  { bytes : List UInt8 // bytes.length = 32 }

open Format (kind eq_of_kind exists_of_encode_via)

/-! ## Encodings -/

namespace TradingPair

variable {AssetId : Type}

def format (asset : Format AssetId) : Format (TradingPair AssetId) :=
  (asset.pair asset).via (kind (fun v => ⟨v.1, v.2⟩)
    (fun tpair => some (tpair.baseAssetId, tpair.targetAssetId)) (by
      rintro ⟨base, target⟩ ⟨base', target'⟩
      simp))

end TradingPair

namespace TechPurpose

variable {AssetId : Type}

def discriminant : TechPurpose AssetId → UInt8
  | .feeCollector => 0
  | .feeCollectorForPair _ => 1
  | .liquidityKeeper _ => 2
  | .identifier _ => 3

def feeCollectorParts : TechPurpose AssetId ≃. Unit :=
  kind (fun _ => .feeCollector)
    (fun
      | .feeCollector => some ()
      | _ => none)
    (by rintro (_ | _ | _ | _) _ <;> simp)

def feeCollectorForPairParts : TechPurpose AssetId ≃. TradingPair AssetId :=
  kind .feeCollectorForPair
    (fun
      | .feeCollectorForPair tpair => some tpair
      | _ => none)
    (by rintro (_ | _ | _ | _) _ <;> simp)

def liquidityKeeperParts : TechPurpose AssetId ≃. TradingPair AssetId :=
  kind .liquidityKeeper
    (fun
      | .liquidityKeeper tpair => some tpair
      | _ => none)
    (by rintro (_ | _ | _ | _) _ <;> simp)

def identifierParts : TechPurpose AssetId ≃. List UInt8 :=
  kind .identifier
    (fun
      | .identifier data => some data
      | _ => none)
    (by rintro (_ | _ | _ | _) _ <;> simp)

/-- The format of the values with a discriminant. -/
def variant (asset : Format AssetId) (tag : UInt8) :
    Format (TechPurpose AssetId) :=
  if tag = 0 then Format.unit.via feeCollectorParts
  else if tag = 1 then (TradingPair.format asset).via feeCollectorForPairParts
  else if tag = 2 then (TradingPair.format asset).via liquidityKeeperParts
  else if tag = 3 then Format.byteString.via identifierParts
  else .empty

theorem discriminant_of_encode {asset : Format AssetId} {tag : UInt8}
    {purpose : TechPurpose AssetId} {bytes : List UInt8}
    (h : (variant asset tag).encode purpose = some bytes) :
    purpose.discriminant = tag := by
  unfold variant at h
  split_ifs at h with h₀ h₁ h₂ h₃
  · obtain ⟨v, hv, -⟩ := exists_of_encode_via h
    cases eq_of_kind hv
    exact h₀.symm
  · obtain ⟨v, hv, -⟩ := exists_of_encode_via h
    cases eq_of_kind hv
    exact h₁.symm
  · obtain ⟨v, hv, -⟩ := exists_of_encode_via h
    cases eq_of_kind hv
    exact h₂.symm
  · obtain ⟨v, hv, -⟩ := exists_of_encode_via h
    cases eq_of_kind hv
    exact h₃.symm
  · cases h

def format (asset : Format AssetId) : Format (TechPurpose AssetId) :=
  .tagged discriminant (variant asset) fun _ _ _ => discriminant_of_encode

/-- The data of an identifier is short enough to be encoded. -/
def Short : TechPurpose AssetId → Prop
  | .identifier data => data.length < 2 ^ 32
  | _ => True

theorem isSome_encode_format (asset : Codec AssetId)
    {purpose : TechPurpose AssetId} :
    ((format (.ofCodec asset)).encode purpose).isSome = true ↔
      purpose.Short := by
  cases purpose with
  | feeCollector => exact iff_of_true rfl trivial
  | feeCollectorForPair tpair => exact iff_of_true rfl trivial
  | liquidityKeeper tpair => exact iff_of_true rfl trivial
  | identifier data =>
      have hencode : (format (.ofCodec asset)).encode (.identifier data) =
          (Format.byteString.encode data).map fun bytes => 3 :: bytes := rfl
      rw [hencode, Option.isSome_map, Format.isSome_encode_byteString, Short]

end TechPurpose

namespace TechAccountId

variable {AccountId AssetId DEXId : Type}

def discriminant : TechAccountId AccountId AssetId DEXId → UInt8
  | .pure _ _ => 0
  | .generic _ _ => 1
  | .wrapped _ => 2
  | .wrappedRepr _ => 3

def pureParts :
    TechAccountId AccountId AssetId DEXId ≃. DEXId × TechPurpose AssetId :=
  kind (fun v => .pure v.1 v.2)
    (fun
      | .pure dex purpose => some (dex, purpose)
      | _ => none)
    (by rintro (_ | _ | _ | _) ⟨_, _⟩ <;> simp)

def genericParts :
    TechAccountId AccountId AssetId DEXId ≃. List UInt8 × List UInt8 :=
  kind (fun v => .generic v.1 v.2)
    (fun
      | .generic tag data => some (tag, data)
      | _ => none)
    (by rintro (_ | _ | _ | _) ⟨_, _⟩ <;> simp)

def wrappedParts : TechAccountId AccountId AssetId DEXId ≃. AccountId :=
  kind .wrapped
    (fun
      | .wrapped a => some a
      | _ => none)
    (by rintro (_ | _ | _ | _) _ <;> simp)

def wrappedReprParts : TechAccountId AccountId AssetId DEXId ≃. AccountId :=
  kind .wrappedRepr
    (fun
      | .wrappedRepr a => some a
      | _ => none)
    (by rintro (_ | _ | _ | _) _ <;> simp)

section

variable (account : Codec AccountId) (asset : Codec AssetId) (dex : Codec DEXId)

/-- The format of the values with a discriminant. -/
def variant (tag : UInt8) : Format (TechAccountId AccountId AssetId DEXId) :=
  if tag = 0 then
    ((Format.ofCodec dex).pair (TechPurpose.format (.ofCodec asset))).via
      pureParts
  else if tag = 1 then
    (Format.byteString.pair Format.byteString).via genericParts
  else if tag = 2 then (Format.ofCodec account).via wrappedParts
  else if tag = 3 then (Format.ofCodec account).via wrappedReprParts
  else .empty

variable {account asset dex}

theorem discriminant_of_encode {tag : UInt8}
    {t : TechAccountId AccountId AssetId DEXId} {bytes : List UInt8}
    (h : (variant account asset dex tag).encode t = some bytes) :
    t.discriminant = tag := by
  unfold variant at h
  split_ifs at h with h₀ h₁ h₂ h₃
  · obtain ⟨v, hv, -⟩ := exists_of_encode_via h
    cases eq_of_kind hv
    exact h₀.symm
  · obtain ⟨v, hv, -⟩ := exists_of_encode_via h
    cases eq_of_kind hv
    exact h₁.symm
  · obtain ⟨v, hv, -⟩ := exists_of_encode_via h
    cases eq_of_kind hv
    exact h₂.symm
  · obtain ⟨v, hv, -⟩ := exists_of_encode_via h
    cases eq_of_kind hv
    exact h₃.symm
  · cases h

variable (account asset dex)

def format : Format (TechAccountId AccountId AssetId DEXId) :=
  .tagged discriminant (variant account asset dex)
    fun _ _ _ => discriminant_of_encode

/-- The byte strings are short enough to be encoded. -/
def Short : TechAccountId AccountId AssetId DEXId → Prop
  | .pure _ purpose => purpose.Short
  | .generic tag data => tag.length < 2 ^ 32 ∧ data.length < 2 ^ 32
  | _ => True

theorem isSome_encode_format {t : TechAccountId AccountId AssetId DEXId} :
    ((format account asset dex).encode t).isSome = true ↔ t.Short := by
  cases t with
  | pure d purpose =>
      have hencode : (format account asset dex).encode (.pure d purpose) =
          (((TechPurpose.format (.ofCodec asset)).encode purpose).map
            fun bytes => dex.encode d ++ bytes).map fun bytes => 0 :: bytes := rfl
      rw [hencode, Option.isSome_map, Option.isSome_map,
        TechPurpose.isSome_encode_format, Short]
  | generic tag data =>
      have hencode : (format account asset dex).encode (.generic tag data) =
          ((Format.byteString.encode tag).bind fun x =>
            (Format.byteString.encode data).map fun y => x ++ y).map
              fun bytes => 1 :: bytes := rfl
      rw [hencode, Option.isSome_map, Short, ← Format.isSome_encode_byteString,
        ← Format.isSome_encode_byteString]
      cases Format.byteString.encode tag with
      | none => simp
      | some x => simp
  | wrapped a => exact iff_of_true rfl trivial
  | wrappedRepr a => exact iff_of_true rfl trivial

/-- A technical account whose byte strings are short enough is encoded, and it
is read back from its encoding whatever follows it; and whatever is read as a
technical account is its only encoding with something behind it. -/
theorem technical_account_round_trip
    (t : TechAccountId AccountId AssetId DEXId) :
    (t.Short → ∃ bytes, (format account asset dex).encode t = some bytes ∧
      ∀ rest, (format account asset dex).decode (bytes ++ rest) =
        some (t, rest)) ∧
    ∀ input rest, (format account asset dex).decode input = some (t, rest) →
      t.Short ∧ ∃ bytes, (format account asset dex).encode t = some bytes ∧
        input = bytes ++ rest := by
  constructor
  · intro hshort
    obtain ⟨bytes, hbytes⟩ := Option.isSome_iff_exists.mp
      ((isSome_encode_format account asset dex).mpr hshort)
    exact ⟨bytes, hbytes, fun rest => (format account asset dex).decode_encode
      rest hbytes⟩
  · intro input rest hread
    obtain ⟨bytes, hbytes, heq⟩ := Format.encode_of_decode _ hread
    refine ⟨(isSome_encode_format account asset dex).mp ?_, bytes, hbytes, heq⟩
    rw [hbytes]
    rfl

/-- Sample: a named account takes four bytes. -/
theorem technical_account_round_trip_sample :
    ∃ bytes, (format (.raw 32) (TechAssetId.codec PredefinedAssetId.codec)
        Codec.u32).encode (.generic [7] []) = some bytes ∧
      ∀ rest, (format (.raw 32) (TechAssetId.codec PredefinedAssetId.codec)
        Codec.u32).decode (bytes ++ rest) = some (.generic [7] [], rest) :=
  (technical_account_round_trip (.raw 32)
    (TechAssetId.codec PredefinedAssetId.codec) Codec.u32 (.generic [7] [])).1
      ⟨by decide, by decide⟩

end

end TechAccountId

/-! ## Accounts -/

/-- What the accounts of all technical accounts start with. -/
def techAccountMagicPrefix : List UInt8 :=
  [84, 115, 79, 144, 249, 113, 160, 44, 96, 155, 45, 104, 78, 97, 181, 87]

/-- The account of an encoded technical account, by a hash with a seed. -/
def techAccountIdEncodedToAccountId32 (xxHash : ℕ → List UInt8 → UInt64)
    (techAccountId : List UInt8) : AccountId32 :=
  ⟨techAccountMagicPrefix ++ leBytes 8 (xxHash 0 techAccountId).toNat ++
    leBytes 8 (xxHash 1 techAccountId).toNat, by
      simp [techAccountMagicPrefix]⟩

/-- `is_representation` of an account. -/
def AccountId32.isRepresentation (a : AccountId32) : Bool :=
  decide (a.1.take 16 = techAccountMagicPrefix)

namespace TechAccountId

variable {AssetId DEXId : Type} (asset : Codec AssetId) (dex : Codec DEXId)
variable (xxHash : ℕ → List UInt8 → UInt64)

/-- The format over accounts of thirty-two bytes. -/
abbrev format32 : Format (TechAccountId AccountId32 AssetId DEXId) :=
  format (.raw 32) asset dex

/-- `tech_account_id_to_account_id`; encoding a byte string that is too long
stops the runtime. -/
def toAccountId (t : TechAccountId AccountId32 AssetId DEXId) :
    Option AccountId32 :=
  ((format32 asset dex).encode t).map (techAccountIdEncodedToAccountId32 xxHash)

/-- Both hashes of two different byte strings are the same. -/
def Collide (x y : List UInt8) : Prop :=
  x ≠ y ∧ xxHash 0 x = xxHash 0 y ∧ xxHash 1 x = xxHash 1 y

variable {xxHash}

theorem leBytes_toNat_inj {a b : UInt64} :
    leBytes 8 a.toNat = leBytes 8 b.toNat ↔ a = b := by
  rw [leBytes_inj a.toNat_lt b.toNat_lt, UInt64.toNat_inj]

theorem techAccountIdEncodedToAccountId32_eq_iff {x y : List UInt8} :
    techAccountIdEncodedToAccountId32 xxHash x =
        techAccountIdEncodedToAccountId32 xxHash y ↔
      xxHash 0 x = xxHash 0 y ∧ xxHash 1 x = xxHash 1 y := by
  rw [← leBytes_toNat_inj, ← leBytes_toNat_inj (b := xxHash 1 y), Subtype.ext_iff]
  dsimp only [techAccountIdEncodedToAccountId32]
  rw [List.append_assoc, List.append_assoc, List.append_cancel_left_eq]
  constructor
  · intro h
    exact List.append_inj h (by simp)
  · rintro ⟨h₀, h₁⟩
    rw [h₀, h₁]

variable {asset dex}

/-- The account of a technical account is recognised as such, and two technical
accounts share it only if they are the same or both hashes of their encodings
collide. -/
theorem technical_accounts_share_iff
    {t t' : TechAccountId AccountId32 AssetId DEXId} {a a' : AccountId32}
    (h : toAccountId asset dex xxHash t = some a)
    (h' : toAccountId asset dex xxHash t' = some a') :
    AccountId32.isRepresentation a = true ∧
      (a = a' ↔ t = t' ∨ ∃ x y, (format32 asset dex).encode t = some x ∧
        (format32 asset dex).encode t' = some y ∧ Collide xxHash x y) := by
  obtain ⟨x, hx, rfl⟩ := Option.map_eq_some_iff.mp h
  obtain ⟨y, hy, rfl⟩ := Option.map_eq_some_iff.mp h'
  refine ⟨decide_eq_true rfl, ?_⟩
  rw [techAccountIdEncodedToAccountId32_eq_iff]
  constructor
  · rintro ⟨h₀, h₁⟩
    by_cases hxy : x = y
    · subst hxy
      exact Or.inl ((format32 asset dex).encode_inj hx hy)
    · exact Or.inr ⟨x, y, hx, hy, hxy, h₀, h₁⟩
  · rintro (rfl | ⟨x', y', hx', hy', -, h₀, h₁⟩)
    · rw [hx] at hy
      cases hy
      exact ⟨rfl, rfl⟩
    · rw [hx] at hx'
      rw [hy] at hy'
      cases hx'
      cases hy'
      exact ⟨h₀, h₁⟩

/-- The hashes of the two encodings below. -/
def sampleHash (seed : ℕ) (bytes : List UInt8) : UInt64 :=
  if bytes = [1, 4, 7, 0] then
    if seed = 0 then 16745534822573552662 else 13177245281806172821
  else
    if seed = 0 then 13897249134864020260 else 90860800923988521

/-- Sample: a named account and the fee collector of the first DEX. -/
theorem technical_accounts_share_iff_sample :
    ∃ a a' : AccountId32,
      toAccountId (TechAssetId.codec PredefinedAssetId.codec) Codec.u32 sampleHash
        (.generic [7] []) = some a ∧
      toAccountId (TechAssetId.codec PredefinedAssetId.codec) Codec.u32 sampleHash
        (.pure 0 .feeCollector) = some a' ∧ a ≠ a' ∧
      AccountId32.isRepresentation a = true ∧
      AccountId32.isRepresentation a' = true := by
  obtain ⟨a, ha⟩ : ∃ a, toAccountId (TechAssetId.codec PredefinedAssetId.codec)
      Codec.u32 sampleHash (.generic [7] []) = some a := ⟨_, rfl⟩
  obtain ⟨a', ha'⟩ : ∃ a, toAccountId (TechAssetId.codec PredefinedAssetId.codec)
      Codec.u32 sampleHash (.pure 0 .feeCollector) = some a := ⟨_, rfl⟩
  obtain ⟨hrepr, hshare⟩ := technical_accounts_share_iff ha ha'
  refine ⟨a, a', ha, ha', ?_, hrepr, (technical_accounts_share_iff ha' ha).1⟩
  rw [Ne, hshare]
  rintro (heq | ⟨x, y, hx, hy, -, h₀, -⟩)
  · cases heq
  · cases hx
    cases hy
    revert h₀
    decide

end TechAccountId
end SoraParachain
