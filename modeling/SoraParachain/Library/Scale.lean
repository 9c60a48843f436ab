import Mathlib.Data.Nat.Init
import Mathlib.Tactic.Ring
import SoraParachain.Library.Format

/-!
# Numbers and byte strings with their lengths

A number takes a fixed number of bytes, the lowest first, or it takes one, two,
four or five bytes depending on its size; the two lowest bits of the first byte
then tell which.  A byte string follows its length, written in this compact way.
Of the encodings that a number has room in only the shortest is accepted.
-/

namespace SoraParachain

/-! ## Little endian -/

/-- The lowest bytes of a number. -/
def leBytes : ℕ → ℕ → List UInt8
  | 0, _ => []
  | n + 1, k => UInt8.ofNat (k % 256) :: leBytes n (k / 256)

/-- The number that bytes spell. -/
def ofLeBytes : List UInt8 → ℕ
  | [] => 0
  | b :: bytes => b.toNat + 256 * ofLeBytes bytes

@[simp] theorem length_leBytes (n k : ℕ) : (leBytes n k).length = n := by
  induction n generalizing k with
  | zero => rfl
  | succ n ih => rw [leBytes, List.length_cons, ih]

theorem toNat_ofNat_mod (k : ℕ) : (UInt8.ofNat (k % 256)).toNat = k % 256 := by
  rw [UInt8.toNat_ofNat']
  exact Nat.mod_eq_of_lt (Nat.mod_lt _ (by decide))

theorem ofLeBytes_leBytes {n k : ℕ} (h : k < 256 ^ n) :
    ofLeBytes (leBytes n k) = k := by
  induction n generalizing k with
  | zero =>
      rw [Nat.pow_zero, Nat.lt_one_iff] at h
      rw [h]
      rfl
  | succ n ih =>
      have hrest : k / 256 < 256 ^ n := by
        rw [Nat.div_lt_iff_lt_mul (by decide), ← Nat.pow_succ]
        exact h
      rw [leBytes, ofLeBytes, ih hrest, toNat_ofNat_mod]
      exact Nat.mod_add_div k 256

theorem ofLeBytes_lt (bytes : List UInt8) :
    ofLeBytes bytes < 256 ^ bytes.length := by
  induction bytes with
  | nil => exact Nat.one_pos
  | cons b bytes ih =>
      have hb : b.toNat < 256 := b.toNat_lt
      rw [ofLeBytes, List.length_cons, Nat.pow_succ]
      omega

theorem leBytes_ofLeBytes (bytes : List UInt8) :
    leBytes bytes.length (ofLeBytes bytes) = bytes := by
  induction bytes with
  | nil => rfl
  | cons b bytes ih =>
      have hb : b.toNat < 256 := b.toNat_lt
      have hlow : (b.toNat + 256 * ofLeBytes bytes) % 256 = b.toNat := by omega
      have hhigh : (b.toNat + 256 * ofLeBytes bytes) / 256 = ofLeBytes bytes := by
        omega
      rw [ofLeBytes, List.length_cons, leBytes, hlow, hhigh, ih,
        UInt8.ofNat_toNat]

/-- The bytes of two numbers are the same only if the numbers are. -/
theorem leBytes_inj {n k l : ℕ} (hk : k < 256 ^ n) (hl : l < 256 ^ n) :
    leBytes n k = leBytes n l ↔ k = l := by
  constructor
  · intro h
    rw [← ofLeBytes_leBytes hk, h, ofLeBytes_leBytes hl]
  · exact fun h => by rw [h]

namespace Format

/-- A number of a fixed number of bytes. -/
def uint (n : ℕ) : Format ℕ where
  encode k := if k < 256 ^ n then some (leBytes n k) else none
  decode input :=
    if n ≤ input.length then some (ofLeBytes (input.take n), input.drop n)
    else none
  decode_encode {k bytes} rest h := by
    split_ifs at h with hk
    cases h
    have hlength : (leBytes n k).length = n := length_leBytes n k
    rw [if_pos (by rw [List.length_append, hlength]; exact Nat.le_add_right _ _),
      List.take_left' hlength, List.drop_left' hlength, ofLeBytes_leBytes hk]
  encode_of_decode {input k rest} h := by
    split_ifs at h with hlength
    cases h
    have htake : (input.take n).length = n := List.length_take_of_le hlength
    have hlt := ofLeBytes_lt (input.take n)
    have hbytes := leBytes_ofLeBytes (input.take n)
    rw [htake] at hlt hbytes
    refine ⟨input.take n, ?_, (List.take_append_drop n input).symm⟩
    rw [if_pos hlt, hbytes]

/-- A number of at least one byte starts with its lowest one. -/
theorem exists_of_encode_uint {n k : ℕ} {bytes : List UInt8}
    (h : (uint (n + 1)).encode k = some bytes) :
    ∃ b rest, bytes = b :: rest ∧ b.toNat = k % 256 := by
  dsimp only [uint] at h
  split_ifs at h
  cases h
  exact ⟨_, _, rfl, toNat_ofNat_mod k⟩

/-- A number behind the two bits of a mode. -/
def moded (mode : ℕ) (hmode : mode < 4) : ℕ ≃. ℕ where
  toFun k := some (4 * k + mode)
  invFun x := if x % 4 = mode then some (x / 4) else none
  inv k x := by
    simp only [Option.ite_none_right_eq_some, Option.some.injEq]
    omega

/-- A number of at least `least` in a fixed number of bytes, behind a mode. -/
def shifted (n mode least : ℕ) (hmode : mode < 4) : Format ℕ :=
  ((uint n).via (moded mode hmode)).only (least ≤ ·)

/-- A large number in four bytes of its own. -/
def large : Format ℕ :=
  tagged (fun _ => 3)
    (fun tag => if tag = 3 then (uint 4).only (2 ^ 30 ≤ ·) else empty) (by
      intro tag k bytes h
      split_ifs at h with htag
      · exact htag.symm
      · cases h)

/-- The mode of a number below `2 ^ 32`. -/
def modeOf (k : ℕ) : ℕ :=
  if k < 2 ^ 6 then 0
  else if k < 2 ^ 14 then 1
  else if k < 2 ^ 30 then 2
  else 3

/-- The format of a mode. -/
def ofMode : ℕ → Format ℕ
  | 0 => shifted 1 0 0 (by decide)
  | 1 => shifted 2 1 (2 ^ 6) (by decide)
  | 2 => shifted 4 2 (2 ^ 14) (by decide)
  | 3 => large
  | _ => empty

/-- What a shifted number starts with tells its mode. -/
theorem mode_of_encode_shifted {n mode least k : ℕ} {hmode : mode < 4}
    {bytes : List UInt8}
    (h : (shifted (n + 1) mode least hmode).encode k = some bytes) :
    least ≤ k ∧ 4 * k + mode < 256 ^ (n + 1) ∧
      ∃ b rest, bytes = b :: rest ∧ b.toNat % 4 = mode := by
  dsimp only [shifted, only] at h
  split_ifs at h with hleast
  obtain ⟨x, hx, h⟩ := exists_of_encode_via h
  cases hx
  have hlt : 4 * k + mode < 256 ^ (n + 1) := by
    dsimp only [uint] at h
    split_ifs at h with hlt
    exact hlt
  obtain ⟨b, rest, hbytes, hb⟩ := exists_of_encode_uint h
  refine ⟨hleast, hlt, b, rest, hbytes, ?_⟩
  omega

theorem mode_of_encode_large {k : ℕ} {bytes : List UInt8}
    (h : large.encode k = some bytes) :
    2 ^ 30 ≤ k ∧ ∃ b rest, bytes = b :: rest ∧ b.toNat % 4 = 3 := by
  obtain ⟨tail, htail, rfl⟩ := Option.map_eq_some_iff.mp h
  have hread : ((uint 4).only (2 ^ 30 ≤ ·)).encode k = some tail := htail
  dsimp only [only] at hread
  split_ifs at hread with hleast
  exact ⟨hleast, 3, tail, rfl, rfl⟩

/-- A number in as few bytes as its mode allows. -/
def compact : Format ℕ :=
  select modeOf (fun b => b.toNat % 4) ofMode (by
    intro i k bytes h
    unfold modeOf
    match i, h with
    | 0, h =>
        obtain ⟨-, hlt, hbytes⟩ := mode_of_encode_shifted h
        refine ⟨?_, hbytes⟩
        rw [if_pos (by omega)]
    | 1, h =>
        obtain ⟨hleast, hlt, hbytes⟩ := mode_of_encode_shifted h
        refine ⟨?_, hbytes⟩
        rw [if_neg (by omega), if_pos (by omega)]
    | 2, h =>
        obtain ⟨hleast, hlt, hbytes⟩ := mode_of_encode_shifted h
        refine ⟨?_, hbytes⟩
        rw [if_neg (by omega), if_neg (by omega), if_pos (by omega)]
    | 3, h =>
        obtain ⟨hleast, hbytes⟩ := mode_of_encode_large h
        refine ⟨?_, hbytes⟩
        rw [if_neg (by omega), if_neg (by omega), if_neg (by omega)]
    | _ + 4, h => cases h)

theorem isSome_encode_uint {n k : ℕ} :
    ((uint n).encode k).isSome = true ↔ k < 256 ^ n := by
  dsimp only [uint]
  split_ifs with h
  · exact iff_of_true rfl h
  · exact iff_of_false Bool.false_ne_true h

theorem isSome_encode_shifted {n mode least k : ℕ} {hmode : mode < 4}
    (hleast : least ≤ k) :
    ((shifted n mode least hmode).encode k).isSome = true ↔
      4 * k + mode < 256 ^ n := by
  rw [← isSome_encode_uint]
  dsimp only [shifted, only]
  rw [if_pos hleast]
  rfl

/-- The numbers below `2 ^ 32` are encoded. -/
theorem isSome_encode_compact {k : ℕ} :
    (compact.encode k).isSome = true ↔ k < 2 ^ 32 := by
  have hmodes : compact.encode k = (ofMode (modeOf k)).encode k := rfl
  rw [hmodes, modeOf]
  split_ifs with h₀ h₁ h₂
  · rw [ofMode, isSome_encode_shifted (Nat.zero_le k)]
    omega
  · rw [ofMode, isSome_encode_shifted (Nat.le_of_not_lt h₀)]
    omega
  · rw [ofMode, isSome_encode_shifted (Nat.le_of_not_lt h₁)]
    omega
  · have hlarge : (large.encode k).isSome = ((uint 4).encode k).isSome := by
      have hencode : large.encode k =
          (((uint 4).only (2 ^ 30 ≤ ·)).encode k).map fun bytes => 3 :: bytes :=
        rfl
      rw [hencode, Option.isSome_map]
      dsimp only [only]
      rw [if_pos (Nat.le_of_not_lt h₂)]
    rw [ofMode, hlarge, isSome_encode_uint]
    omega

/-- A byte string behind its length. -/
def byteString : Format (List UInt8) where
  encode bytes := (compact.encode bytes.length).map fun x => x ++ bytes
  decode input := (compact.decode input).bind fun v =>
    if v.1 ≤ v.2.length then some (v.2.take v.1, v.2.drop v.1) else none
  decode_encode {a bytes} rest h := by
    obtain ⟨x, hx, rfl⟩ := Option.map_eq_some_iff.mp h
    rw [List.append_assoc, compact.decode_encode _ hx, Option.bind_some,
      if_pos (by rw [List.length_append]; exact Nat.le_add_right _ _),
      List.take_left, List.drop_left]
  encode_of_decode {input a rest} h := by
    obtain ⟨⟨n, input'⟩, hread, h⟩ := Option.bind_eq_some_iff.mp h
    dsimp only at h
    split_ifs at h with hlength
    cases h
    obtain ⟨x, hx, rfl⟩ := compact.encode_of_decode hread
    refine ⟨x ++ input'.take n, ?_, ?_⟩
    · rw [List.length_take_of_le hlength, hx, Option.map_some]
    · rw [List.append_assoc, List.take_append_drop]

/-- The byte strings of fewer than `2 ^ 32` bytes are encoded. -/
theorem isSome_encode_byteString {bytes : List UInt8} :
    (byteString.encode bytes).isSome = true ↔ bytes.length < 2 ^ 32 := by
  rw [← isSome_encode_compact]
  dsimp only [byteString]
  rw [Option.isSome_map]

end Format

/-- A number of four bytes. -/
def Codec.u32 : Codec UInt32 where
  encode v := leBytes 4 v.toNat
  decode input :=
    ((Format.uint 4).decode input).map fun x => (UInt32.ofNat x.1, x.2)
  decode_encode v rest := by
    have hencode : (Format.uint 4).encode v.toNat = some (leBytes 4 v.toNat) :=
      if_pos v.toNat_lt
    rw [(Format.uint 4).decode_encode rest hencode, Option.map_some,
      UInt32.ofNat_toNat]
  eq_of_decode {input v rest} h := by
    obtain ⟨⟨k, rest'⟩, hread, hv⟩ := Option.map_eq_some_iff.mp h
    cases hv
    obtain ⟨bytes, hbytes, rfl⟩ := (Format.uint 4).encode_of_decode hread
    dsimp only [Format.uint] at hbytes
    split_ifs at hbytes with hk
    cases hbytes
    rw [UInt32.toNat_ofNat_of_lt' hk]

end SoraParachain
