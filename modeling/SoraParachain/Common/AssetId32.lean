import SoraParachain.Library.Codec

/-!
# Asset identifiers of thirty-two bytes

An identifier holds a technical asset behind a byte that counts the bytes of its
encoding, or it holds thirty-two bytes that mean nothing else.  Converting an
identifier to a technical asset decodes what the first byte counts and falls back
to escaping the whole identifier.  The decoder need not read all of it, so that
identifiers which are not encodings of anything can still be read as one.
-/

namespace SoraParachain

/-- `[u8; 32]`. -/
abbrev AssetId32Code : Type :=
  { bytes : List UInt8 // bytes.length = 32 }

@[ext] structure AssetId32 where
  code : AssetId32Code
  deriving DecidableEq

inductive TechAssetId (AssetId : Type) where
  | wrapped (a : AssetId)
  | escaped (code : AssetId32Code)
  deriving DecidableEq

inductive PredefinedAssetId where
  | xor
  | dot
  | ksm
  | usdt
  | val
  | pswap
  | dai
  | eth
  deriving DecidableEq

/-! ## Encodings -/

namespace PredefinedAssetId

def toByte : PredefinedAssetId → UInt8
  | xor => 0
  | dot => 1
  | ksm => 2
  | usdt => 3
  | val => 4
  | pswap => 5
  | dai => 6
  | eth => 7

def ofByte (b : UInt8) : Option PredefinedAssetId :=
  if b = 0 then some xor
  else if b = 1 then some dot
  else if b = 2 then some ksm
  else if b = 3 then some usdt
  else if b = 4 then some val
  else if b = 5 then some pswap
  else if b = 6 then some dai
  else if b = 7 then some eth
  else none

theorem ofByte_eq_some_iff (b : UInt8) (a : PredefinedAssetId) :
    ofByte b = some a ↔ b = toByte a := by
  constructor
  · intro h
    unfold ofByte at h
    split_ifs at h with h₀ h₁ h₂ h₃ h₄ h₅ h₆ h₇ <;> cases h <;> assumption
  · intro h
    subst h
    cases a <;> rfl

def codec : Codec PredefinedAssetId :=
  .byte toByte ofByte ofByte_eq_some_iff

/-- No predefined asset stands for another asset. -/
def isRepresentation (_ : PredefinedAssetId) : Bool := false

end PredefinedAssetId

namespace TechAssetId

variable {AssetId : Type}

/-- A technical asset is one of two kinds. -/
def ofSum : AssetId ⊕ AssetId32Code ≃ TechAssetId AssetId where
  toFun
    | .inl a => .wrapped a
    | .inr code => .escaped code
  invFun
    | .wrapped a => .inl a
    | .escaped code => .inr code
  left_inv v := by cases v <;> rfl
  right_inv v := by cases v <;> rfl

def codec (c : Codec AssetId) : Codec (TechAssetId AssetId) :=
  (c.tagged (.raw 32)).congr ofSum

/-- `TryFrom<AssetId32>`, which always succeeds. -/
def tryFrom (c : Codec AssetId) (compat : AssetId32) : TechAssetId AssetId :=
  let code := compat.code.1
  let stop := (code.headD 0).toNat + 1
  if stop < 32 then
    match (codec c).decode ((code.take stop).drop 1) with
    | some (v, _) => v
    | none => .escaped compat.code
  else .escaped compat.code

end TechAssetId

namespace AssetId32

variable {AssetId : Type}

/-- `From<TechAssetId>`: an encoding of at most thirty-one bytes behind its
length, filled up with zeros.  An assertion that fails stops the runtime. -/
def ofTechAssetId (c : Codec AssetId) (isRepresentation : AssetId → Bool) :
    TechAssetId AssetId → Option AssetId32
  | .escaped code => some ⟨code⟩
  | .wrapped a =>
      let assetEncoded := (TechAssetId.codec c).encode (.wrapped a)
      if h : assetEncoded.length ≤ 31 ∧ isRepresentation a = false then
        some ⟨UInt8.ofNat assetEncoded.length ::
          (assetEncoded ++ List.replicate (31 - assetEncoded.length) 0), by
            simp
            omega⟩
      else none

/-- The identifier of a predefined asset. -/
def ofAssetId (a : PredefinedAssetId) : AssetId32 :=
  ⟨2 :: 0 :: a.toByte :: List.replicate 29 0, by simp⟩

end AssetId32

namespace TechAssetId

/-! ## What an identifier is read as -/

section

variable {AssetId : Type} (c : Codec AssetId)

/-- The bytes that the first byte counts are too few for an escaped
identifier. -/
theorem tryFrom_eq_wrapped_iff {compat : AssetId32} {a : AssetId} :
    tryFrom c compat = .wrapped a ↔
      (compat.code.1.headD 0).toNat ≤ 30 ∧
        ∃ rest, (compat.code.1.take
          ((compat.code.1.headD 0).toNat + 1)).drop 1 =
            0 :: c.encode a ++ rest := by
  simp only [tryFrom]
  generalize (compat.code.1.headD 0).toNat = n
  by_cases hn : n + 1 < 32
  · rw [if_pos hn]
    generalize (compat.code.1.take (n + 1)).drop 1 = frag
    cases hdecode : (codec c).decode frag with
    | none =>
        apply iff_of_false (by simp)
        intro h
        obtain ⟨-, rest, hfrag⟩ := h
        have hsome : (codec c).decode frag = some (.wrapped a, rest) := by
          rw [Codec.decode_eq_some_iff]
          exact hfrag
        rw [hdecode] at hsome
        cases hsome
    | some x =>
        obtain ⟨v, rest⟩ := x
        have hfrag := (codec c).eq_of_decode hdecode
        constructor
        · intro hv
          dsimp only at hv
          subst hv
          exact ⟨by omega, rest, hfrag⟩
        · intro h
          obtain ⟨-, rest', hfrag'⟩ := h
          have hsome : (codec c).decode frag = some (.wrapped a, rest') := by
            rw [Codec.decode_eq_some_iff]
            exact hfrag'
          rw [hdecode] at hsome
          cases hsome
          rfl
  · rw [if_neg hn]
    apply iff_of_false (by simp)
    intro h
    have hle := h.1
    omega

/-- What is not read as a wrapped asset is escaped whole. -/
theorem tryFrom_eq_escaped {compat : AssetId32} {code : AssetId32Code}
    (h : tryFrom c compat = .escaped code) :
    code = compat.code := by
  unfold tryFrom at h
  dsimp only at h
  split_ifs at h with hstop
  · cases hdecode : (codec c).decode ((compat.code.1.take
        ((compat.code.1.headD 0).toNat + 1)).drop 1) with
    | none =>
        rw [hdecode] at h
        cases h
        rfl
    | some x =>
        obtain ⟨v, rest⟩ := x
        rw [hdecode] at h
        dsimp only at h
        subst h
        have hlength := (codec c).length_encode_le hdecode
        have hcode : ((codec c).encode (.escaped code)).length = 33 := by
          change (1 :: code.1).length = 33
          rw [List.length_cons, code.2]
        rw [hcode, List.length_drop, List.length_take] at hlength
        omega
  · cases h
    rfl

end

/-! ## Predefined assets -/

open PredefinedAssetId (isRepresentation)

/-- An identifier is read as a predefined asset when it counts at least the two
bytes of its encoding and starts with them. -/
theorem tryFrom_eq_predefined_iff {compat : AssetId32}
    {a : PredefinedAssetId} :
    tryFrom PredefinedAssetId.codec compat = .wrapped a ↔
      ∃ n tail, compat.code.1 = n :: 0 :: a.toByte :: tail ∧
        2 ≤ n.toNat ∧ n.toNat ≤ 30 := by
  rw [tryFrom_eq_wrapped_iff]
  obtain ⟨⟨code, hcode⟩⟩ := compat
  rcases code with _ | ⟨n, _ | ⟨b, _ | ⟨k, tail⟩⟩⟩
  · simp at hcode
  · simp at hcode
  · simp at hcode
  · have hfrag : ((n :: b :: k :: tail).take (n.toNat + 1)).drop 1 =
        (b :: k :: tail).take n.toNat := rfl
    change n.toNat ≤ 30 ∧ (∃ rest, ((n :: b :: k :: tail).take
      (n.toNat + 1)).drop 1 = 0 :: [a.toByte] ++ rest) ↔ _
    rw [hfrag]
    constructor
    · intro h
      obtain ⟨hle, rest, hrest⟩ := h
      have hlength := congrArg List.length hrest
      simp only [List.length_take, List.length_append, List.length_cons] at hlength
      have htwo : 2 ≤ n.toNat := by omega
      have hb : b = 0 := by
        have hhead := congrArg (fun l => l[0]?) hrest
        simpa [List.getElem?_take, show 0 < n.toNat by omega] using hhead
      have hk : k = a.toByte := by
        have hsecond := congrArg (fun l => l[1]?) hrest
        simpa [List.getElem?_take, show 1 < n.toNat by omega] using hsecond
      exact ⟨n, tail, by rw [hb, hk], htwo, hle⟩
    · intro h
      obtain ⟨n', tail', heq, htwo, hle⟩ := h
      cases heq
      refine ⟨hle, tail.take (n.toNat - 2), ?_⟩
      obtain ⟨m, hm⟩ := Nat.exists_eq_add_of_le htwo
      rw [hm, Nat.add_comm 2 m]
      simp

theorem ofTechAssetId_predefined (a : PredefinedAssetId) :
    AssetId32.ofTechAssetId PredefinedAssetId.codec isRepresentation
      (.wrapped a) = some (.ofAssetId a) := by
  cases a <;> rfl

/-- The identifier of a predefined asset is read as that asset. -/
theorem tryFrom_ofAssetId (a : PredefinedAssetId) :
    tryFrom PredefinedAssetId.codec (.ofAssetId a) = .wrapped a :=
  tryFrom_eq_predefined_iff.mpr ⟨2, _, rfl, by decide, by decide⟩

end TechAssetId

namespace AssetId32

open PredefinedAssetId (isRepresentation)
open TechAssetId (tryFrom)

/-- An identifier that counts from two to thirty bytes and goes on with a zero
and the number of a predefined asset is the identifier of that asset. -/
def Canonical (a : AssetId32) : Prop :=
  ∀ asset n tail,
    a.code.1 = n :: 0 :: PredefinedAssetId.toByte asset :: tail →
      2 ≤ n.toNat → n.toNat ≤ 30 → a = ofAssetId asset

theorem Canonical.eq_of_wrapped {a : AssetId32} (ha : Canonical a)
    {asset : PredefinedAssetId}
    (h : tryFrom PredefinedAssetId.codec a = .wrapped asset) :
    a = ofAssetId asset := by
  obtain ⟨n, tail, hcode, htwo, hle⟩ := TechAssetId.tryFrom_eq_predefined_iff.mp h
  exact ha asset n tail hcode htwo hle

/-- The conversion and its inverse return an identifier exactly when it is
canonical. -/
theorem ofTechAssetId_tryFrom_iff {a : AssetId32} :
    ofTechAssetId PredefinedAssetId.codec isRepresentation
        (tryFrom PredefinedAssetId.codec a) = some a ↔ Canonical a := by
  constructor
  · intro h asset n tail hcode htwo hle
    have hread : tryFrom PredefinedAssetId.codec a = .wrapped asset :=
      TechAssetId.tryFrom_eq_predefined_iff.mpr ⟨n, tail, hcode, htwo, hle⟩
    rw [hread, TechAssetId.ofTechAssetId_predefined] at h
    exact (Option.some.inj h).symm
  · intro ha
    cases hread : tryFrom PredefinedAssetId.codec a with
    | wrapped asset =>
        rw [TechAssetId.ofTechAssetId_predefined, ← ha.eq_of_wrapped hread]
    | escaped code =>
        have hcode := TechAssetId.tryFrom_eq_escaped _ hread
        rw [hcode]
        rfl

/-- Canonical identifiers convert to different technical assets. -/
theorem Canonical.tryFrom_inj {a b : AssetId32} (ha : Canonical a)
    (hb : Canonical b)
    (h : tryFrom PredefinedAssetId.codec a = tryFrom PredefinedAssetId.codec b) :
    a = b := by
  have hback := ofTechAssetId_tryFrom_iff.mpr ha
  rw [h, ofTechAssetId_tryFrom_iff.mpr hb] at hback
  exact (Option.some.inj hback).symm

/-- An identifier that counts no bytes is canonical. -/
theorem canonical_of_head_zero {a : AssetId32} {tail : List UInt8}
    (h : a.code.1 = 0 :: tail) :
    Canonical a := by
  intro asset n tail' hcode htwo
  rw [h] at hcode
  cases hcode
  simp at htwo

end AssetId32
end SoraParachain
