import Mathlib.Data.PEquiv
import SoraParachain.Library.Codec

/-!
# Formats that do not encode every value

An encoder may refuse a value, such as a list that is too long for its length to
be written down.  What it accepts is read back, and everything that is read is
the encoding of the value followed by the rest.  A type with several kinds of
values is encoded by one format for each kind, which refuses the other kinds.
-/

namespace SoraParachain

/-- A partial encoding together with its decoder. -/
structure Format (α : Type) where
  encode : α → Option (List UInt8)
  decode : List UInt8 → Option (α × List UInt8)
  decode_encode : ∀ {a bytes} rest, encode a = some bytes →
    decode (bytes ++ rest) = some (a, rest)
  encode_of_decode : ∀ {input a rest}, decode input = some (a, rest) →
    ∃ bytes, encode a = some bytes ∧ input = bytes ++ rest

namespace Format

variable {α β ι : Type}

/-- A value is read from exactly the byte strings that start with its
encoding. -/
theorem decode_eq_some_iff (f : Format α) {input rest : List UInt8} {a : α} :
    f.decode input = some (a, rest) ↔
      ∃ bytes, f.encode a = some bytes ∧ input = bytes ++ rest := by
  constructor
  · exact f.encode_of_decode
  · rintro ⟨bytes, hbytes, rfl⟩
    exact f.decode_encode rest hbytes

/-- No encoding starts with the encoding of another value. -/
theorem eq_of_append_eq (f : Format α) {a b : α} {x y rest rest' : List UInt8}
    (ha : f.encode a = some x) (hb : f.encode b = some y)
    (h : x ++ rest = y ++ rest') : a = b ∧ rest = rest' := by
  have hread := f.decode_encode rest ha
  rw [h, f.decode_encode rest' hb] at hread
  cases hread
  exact ⟨rfl, rfl⟩

theorem encode_inj (f : Format α) {a b : α} {bytes : List UInt8}
    (ha : f.encode a = some bytes) (hb : f.encode b = some bytes) : a = b :=
  (f.eq_of_append_eq ha hb (rfl : bytes ++ [] = bytes ++ [])).1

/-- A codec encodes every value. -/
def ofCodec (c : Codec α) : Format α where
  encode a := some (c.encode a)
  decode := c.decode
  decode_encode {a bytes} rest h := by
    cases h
    exact c.decode_encode a rest
  encode_of_decode h := ⟨_, rfl, c.eq_of_decode h⟩

/-- Nothing is encoded. -/
def empty : Format α where
  encode _ := none
  decode _ := none
  decode_encode _ h := by cases h
  encode_of_decode h := by cases h

/-- A value that takes no bytes. -/
def unit : Format Unit where
  encode _ := some []
  decode input := some ((), input)
  decode_encode rest h := by
    cases h
    rfl
  encode_of_decode h := by
    cases h
    exact ⟨[], rfl, rfl⟩

/-- One value after another. -/
def pair (f : Format α) (g : Format β) : Format (α × β) where
  encode v :=
    (f.encode v.1).bind fun x => (g.encode v.2).map fun y => x ++ y
  decode input :=
    (f.decode input).bind fun v => (g.decode v.2).map fun w => ((v.1, w.1), w.2)
  decode_encode {v bytes} rest h := by
    obtain ⟨x, hx, h⟩ := Option.bind_eq_some_iff.mp h
    obtain ⟨y, hy, rfl⟩ := Option.map_eq_some_iff.mp h
    rw [List.append_assoc, f.decode_encode _ hx, Option.bind_some,
      g.decode_encode _ hy, Option.map_some]
  encode_of_decode {input v rest} h := by
    obtain ⟨⟨a, input'⟩, ha, h⟩ := Option.bind_eq_some_iff.mp h
    obtain ⟨⟨b, rest'⟩, hb, h⟩ := Option.map_eq_some_iff.mp h
    cases h
    obtain ⟨x, hx, rfl⟩ := f.encode_of_decode ha
    obtain ⟨y, hy, rfl⟩ := g.encode_of_decode hb
    refine ⟨x ++ y, ?_, (List.append_assoc x y _).symm⟩
    rw [hx, Option.bind_some, hy, Option.map_some]

/-- The values that correspond to values of another type. -/
def via (e : α ≃. β) (f : Format β) : Format α where
  encode a := (e a).bind f.encode
  decode input := (f.decode input).bind fun v =>
    (e.symm v.1).map fun a => (a, v.2)
  decode_encode {a bytes} rest henc := by
    obtain ⟨b, hb, henc⟩ := Option.bind_eq_some_iff.mp henc
    have ha : e.symm b = some a := e.eq_some_iff.mpr hb
    rw [f.decode_encode rest henc, Option.bind_some, ha, Option.map_some]
  encode_of_decode {input a rest} hdec := by
    obtain ⟨⟨b, rest'⟩, hread, hdec⟩ := Option.bind_eq_some_iff.mp hdec
    obtain ⟨a', ha, hv⟩ := Option.map_eq_some_iff.mp hdec
    cases hv
    obtain ⟨bytes, hbytes, rfl⟩ := f.encode_of_decode hread
    refine ⟨bytes, ?_, rfl⟩
    rw [e.eq_some_iff.mp ha, Option.bind_some, hbytes]

theorem exists_of_encode_via {e : α ≃. β} {f : Format β} {a : α}
    {bytes : List UInt8} (h : (f.via e).encode a = some bytes) :
    ∃ b, e a = some b ∧ f.encode b = some bytes :=
  Option.bind_eq_some_iff.mp h

/-- A format for each kind of value, chosen by the first byte of what it reads,
which is left to that format. -/
def select (kindOf : α → ι) (ofByte : UInt8 → ι) (family : ι → Format α)
    (h : ∀ i a bytes, (family i).encode a = some bytes →
      kindOf a = i ∧ ∃ b rest, bytes = b :: rest ∧ ofByte b = i) :
    Format α where
  encode a := (family (kindOf a)).encode a
  decode
    | [] => none
    | b :: bytes => (family (ofByte b)).decode (b :: bytes)
  decode_encode {a bytes} rest henc := by
    obtain ⟨-, b, tail, rfl, hb⟩ := h _ _ _ henc
    have hread := (family (kindOf a)).decode_encode rest henc
    rw [← hb] at hread
    exact hread
  encode_of_decode {input a rest} hdec := by
    cases input with
    | nil => cases hdec
    | cons b bytes =>
        obtain ⟨x, hx, heq⟩ := (family (ofByte b)).encode_of_decode hdec
        obtain ⟨hkind, -⟩ := h _ _ _ hx
        rw [hkind]
        exact ⟨x, hx, heq⟩

/-- A byte that names the kind, before the value. -/
def tagged (tagOf : α → UInt8) (family : UInt8 → Format α)
    (h : ∀ tag a bytes, (family tag).encode a = some bytes → tagOf a = tag) :
    Format α where
  encode a := ((family (tagOf a)).encode a).map fun bytes => tagOf a :: bytes
  decode
    | [] => none
    | tag :: bytes => (family tag).decode bytes
  decode_encode {a bytes} rest henc := by
    obtain ⟨x, hx, rfl⟩ := Option.map_eq_some_iff.mp henc
    exact (family (tagOf a)).decode_encode rest hx
  encode_of_decode {input a rest} hdec := by
    cases input with
    | nil => cases hdec
    | cons tag bytes =>
        obtain ⟨x, hx, rfl⟩ := (family tag).encode_of_decode hdec
        have htag : tagOf a = tag := h _ _ _ hx
        refine ⟨tag :: x, ?_, rfl⟩
        rw [htag, hx, Option.map_some]

/-- The values of one kind, which are built from another type. -/
def kind (build : β → α) (parts : α → Option β)
    (h : ∀ a b, parts a = some b ↔ a = build b) : α ≃. β where
  toFun := parts
  invFun b := some (build b)
  inv a b := by
    rw [h, Option.some.injEq, eq_comm]

theorem eq_of_kind {build : β → α} {parts : α → Option β}
    {h : ∀ a b, parts a = some b ↔ a = build b} {a : α} {b : β}
    (hab : kind build parts h a = some b) : a = build b :=
  (h a b).mp hab

/-- Only the values that satisfy a condition. -/
def only (f : Format α) (P : α → Prop) [DecidablePred P] : Format α where
  encode a := if P a then f.encode a else none
  decode input := (f.decode input).filter fun v => P v.1
  decode_encode {a bytes} rest henc := by
    split_ifs at henc with ha
    rw [f.decode_encode rest henc, Option.filter_some, if_pos (decide_eq_true ha)]
  encode_of_decode {input a rest} hdec := by
    obtain ⟨hread, ha⟩ := Option.filter_eq_some_iff.mp hdec
    obtain ⟨bytes, hbytes, heq⟩ := f.encode_of_decode hread
    exact ⟨bytes, by rw [if_pos (of_decide_eq_true ha), hbytes], heq⟩

end Format
end SoraParachain
