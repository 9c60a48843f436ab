import Mathlib.Data.List.Basic
import Mathlib.Logic.Equiv.Defs
import Mathlib.Tactic.Common

/-!
# Codecs that leave the rest of the input

A decoder reads a value from the front of a byte string and returns what it did
not read.  A codec reads back what it wrote, and everything it reads is the
encoding of the value followed by the rest.
-/

namespace SoraParachain

/-- An encoding together with its decoder. -/
structure Codec (α : Type) where
  encode : α → List UInt8
  decode : List UInt8 → Option (α × List UInt8)
  decode_encode : ∀ a rest, decode (encode a ++ rest) = some (a, rest)
  eq_of_decode : ∀ {input a rest}, decode input = some (a, rest) →
    input = encode a ++ rest

namespace Codec

variable {α β : Type}

/-- A value is read from exactly the byte strings that start with its
encoding. -/
theorem decode_eq_some_iff (c : Codec α) {input rest : List UInt8} {a : α} :
    c.decode input = some (a, rest) ↔ input = c.encode a ++ rest := by
  constructor
  · exact c.eq_of_decode
  · intro h
    rw [h]
    exact c.decode_encode a rest

/-- What is decoded is at least as long as its encoding. -/
theorem length_encode_le (c : Codec α) {input rest : List UInt8} {a : α}
    (h : c.decode input = some (a, rest)) :
    (c.encode a).length ≤ input.length := by
  rw [c.eq_of_decode h, List.length_append]
  exact Nat.le_add_right _ _

/-- A fixed number of raw bytes. -/
def raw (n : ℕ) : Codec { bytes : List UInt8 // bytes.length = n } where
  encode bytes := bytes.1
  decode input :=
    if h : n ≤ input.length then
      some (⟨input.take n, List.length_take_of_le h⟩, input.drop n)
    else none
  decode_encode a rest := by
    obtain ⟨bytes, rfl⟩ := a
    simp
  eq_of_decode {input a rest} h := by
    split_ifs at h with hn
    cases h
    exact (List.take_append_drop n input).symm

/-- One byte that names a value. -/
def byte (toByte : α → UInt8) (ofByte : UInt8 → Option α)
    (h : ∀ b a, ofByte b = some a ↔ b = toByte a) : Codec α where
  encode a := [toByte a]
  decode
    | [] => none
    | b :: rest => (ofByte b).map fun a => (a, rest)
  decode_encode a rest := by
    simp [(h (toByte a) a).mpr rfl]
  eq_of_decode {input a rest} hdecode := by
    cases input with
    | nil => cases hdecode
    | cons b bytes =>
        obtain ⟨a', ha, hrest⟩ := Option.map_eq_some_iff.mp hdecode
        cases hrest
        rw [(h b a).mp ha]
        rfl

/-- The tag `0` before a value of one kind or the tag `1` before a value of the
other. -/
def tagged (left : Codec α) (right : Codec β) : Codec (α ⊕ β) where
  encode
    | .inl a => 0 :: left.encode a
    | .inr b => 1 :: right.encode b
  decode
    | [] => none
    | tag :: bytes =>
        if tag = 0 then (left.decode bytes).map fun x => (.inl x.1, x.2)
        else if tag = 1 then (right.decode bytes).map fun x => (.inr x.1, x.2)
        else none
  decode_encode v rest := by
    cases v with
    | inl a => simp [left.decode_encode]
    | inr b => simp [right.decode_encode]
  eq_of_decode {input v rest} h := by
    cases input with
    | nil => cases h
    | cons tag bytes =>
        dsimp only at h
        split_ifs at h with hzero hone
        · obtain ⟨⟨a, rest'⟩, ha, hv⟩ := Option.map_eq_some_iff.mp h
          cases hv
          rw [hzero, left.eq_of_decode ha]
          rfl
        · obtain ⟨⟨b, rest'⟩, hb, hv⟩ := Option.map_eq_some_iff.mp h
          cases hv
          rw [hone, right.eq_of_decode hb]
          rfl

/-- The codec of a type whose values are those of another. -/
def congr (e : α ≃ β) (c : Codec α) : Codec β where
  encode b := c.encode (e.symm b)
  decode input := (c.decode input).map fun x => (e x.1, x.2)
  decode_encode b rest := by
    simp [c.decode_encode]
  eq_of_decode {input b rest} h := by
    obtain ⟨⟨a, rest'⟩, ha, hv⟩ := Option.map_eq_some_iff.mp h
    cases hv
    rw [e.symm_apply_apply]
    exact c.eq_of_decode ha

end Codec
end SoraParachain
