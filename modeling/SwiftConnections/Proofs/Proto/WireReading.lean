import Mathlib.Algebra.Group.Nat.Defs
import SwiftConnections.Proto.Field

namespace SwiftConnections

theorem Text.ofUtf8?_utf8 (t : Text) : Text.ofUtf8? t.utf8 = some t := by
  have hdecode : t.utf8.toByteArray.utf8Decode? = some t.toArray := List.utf8Decode?_utf8Encode
  rw [Text.ofUtf8?, hdecode, Option.map_some, List.toList_toArray]

namespace Bytes

theorem toNat_toUInt8 {n : Nat} (h : n < 256) : n.toUInt8.toNat = n :=
  UInt8.toNat_ofNat_of_lt' h

theorem ofVarint_of_lt {n : Nat} (h : n < 128) : ofVarint n = [n.toUInt8] := by
  rw [ofVarint, if_pos h]

theorem ofVarint_ne_nil (n : Nat) : ofVarint n ≠ [] := by
  rw [ofVarint]
  split <;> exact List.cons_ne_nil _ _

/-- A number that needs no more than `k` whole groups and one bit is read back from `k + 1` bytes. -/
theorem readVarint_ofVarint {k n : Nat} (h : n < 2 * 128 ^ k) (rest : Bytes) :
    readVarint (k + 1) (ofVarint n ++ rest) = some (n, rest) := by
  induction k generalizing n with
  | zero =>
    have hbyte : n.toUInt8.toNat = n := toNat_toUInt8 (by omega)
    rw [ofVarint_of_lt (by omega), List.singleton_append, readVarint, hbyte, if_pos (by omega), if_neg (by omega)]
  | succ k ih =>
    by_cases hsmall : n < 128
    · have hbyte : n.toUInt8.toNat = n := toNat_toUInt8 (by omega)
      rw [ofVarint_of_lt hsmall, List.singleton_append, readVarint, hbyte, if_pos hsmall, if_neg (by omega)]
    · have hhigh : n / 128 < 2 * 128 ^ k := by
        rw [Nat.pow_succ] at h
        omega
      have hbyte : (n % 128 + 128).toUInt8.toNat = n % 128 + 128 := toNat_toUInt8 (by omega)
      rw [ofVarint, if_neg hsmall, List.cons_append, readVarint, hbyte, if_neg (by omega), ih hhigh, Option.map_some]
      have hvalue : n % 128 + 128 - 128 + 128 * (n / 128) = n := by omega
      simp only [hvalue]

theorem varint?_ofVarint {n : Nat} (h : n < 2 ^ 64) (rest : Bytes) : (ofVarint n ++ rest).varint? = some (n, rest) :=
  readVarint_ofVarint (k := 9) h rest

theorem splitAt?_append (first rest : Bytes) : (first ++ rest).splitAt? first.length = some (first, rest) := by
  rw [splitAt?, if_pos (by simp), List.splitAt_eq, List.take_left, List.drop_left]

theorem delimited?_delimited {bytes : Bytes} (h : bytes.length < 2 ^ 64) (rest : Bytes) :
    (bytes.delimited ++ rest).delimited? = some (bytes, rest) := by
  rw [delimited?, delimited, List.append_assoc, varint?_ofVarint h]
  exact splitAt?_append bytes rest

theorem length_lt_delimited (bytes : Bytes) : bytes.length < bytes.delimited.length := by
  have hpos := List.length_pos_iff.mpr (ofVarint_ne_nil bytes.length)
  rw [delimited, List.length_append]
  omega

end Bytes

theorem WireType.ofCode?_code (wire : WireType) : WireType.ofCode? wire.code = some wire := by
  cases wire <;> rfl

theorem WireType.code_lt (wire : WireType) : wire.code < 8 := by
  cases wire <;> decide

theorem WireKey.read?_bytes {key : WireKey} (hpos : 1 ≤ key.number) (hlt : key.number < 2 ^ 29) (rest : Bytes) :
    WireKey.read? (key.bytes ++ rest) = some (key, rest) := by
  have hcode := key.wire.code_lt
  have hvarint : (key.bytes ++ rest).varint? = some (8 * key.number + key.wire.code, rest) :=
    Bytes.varint?_ofVarint (by omega) rest
  have hwire : WireType.ofCode? ((8 * key.number + key.wire.code) % 8) = some key.wire := by
    rw [Nat.mul_add_mod, Nat.mod_eq_of_lt hcode, key.wire.ofCode?_code]
  have hnumber : (8 * key.number + key.wire.code) / 8 = key.number := by omega
  rw [WireKey.read?, hvarint]
  have hlimit : Nat.pow 2 32 = 2 ^ 32 := rfl
  simp only [hwire, hnumber, hlimit]
  rw [if_pos ⟨by omega, hpos⟩]

theorem MessageKind.field?_bounds {kind : MessageKind} {number : Nat} {fieldKind : FieldKind}
    (h : kind.field? number = some fieldKind) : 1 ≤ number ∧ number < 2 ^ 29 := by
  have hall : ∀ entry ∈ kind.fields, 1 ≤ entry.1 ∧ entry.1 < 2 ^ 29 := by cases kind <;> decide
  obtain ⟨before, after, hfields, -⟩ := List.lookup_eq_some_iff.mp h
  exact hall (number, fieldKind) (by rw [hfields]; simp)

namespace Field

mutual

/-- The field is a known one of messages of this kind, and messages in it are nested no deeper than this. -/
def Fits (depth : Nat) (kind : MessageKind) : Field → Prop
  | number n value => kind.field? n = some .number ∧ value < 2 ^ 64
  | eight n value => kind.field? n = some .eight ∧ value.length = 8
  | text n _ => kind.field? n = some .text
  | bytes n _ => kind.field? n = some .bytes
  | message n fields =>
    ∃ inner, kind.field? n = some (.message inner) ∧ 0 < depth ∧ FitAll (depth - 1) inner fields

def FitAll (depth : Nat) (kind : MessageKind) : List Field → Prop
  | [] => True
  | field :: fields => Fits depth kind field ∧ FitAll depth kind fields

end

theorem fitAll_iff {depth : Nat} {kind : MessageKind} {fields : List Field} :
    FitAll depth kind fields ↔ ∀ field ∈ fields, field.Fits depth kind := by
  induction fields with
  | nil => simp [FitAll]
  | cons field fields ih => rw [FitAll, ih, List.forall_mem_cons]

/-- The field that a value on the wire is read as. -/
def ofWire? (depth n : Nat) (fieldKind : FieldKind) (value : WireValue) : Option Field :=
  match fieldKind, value with
  | .number, .varint value => some (number n value)
  | .eight, .eight value => some (eight n value)
  | .text, .delimited value => (Text.ofUtf8? value).map (text n)
  | .bytes, .delimited value => some (bytes n value)
  | .message inner, .delimited value =>
    if depth = 0 then none else (decodeAll? (depth - 1) inner value).map (message n)
  | _, _ => none

theorem decodeAll?_of_read {depth : Nat} {kind : MessageKind} {input body rest : Bytes} {key : WireKey}
    {value : WireValue} {fieldKind : FieldKind} (hk : WireKey.read? input = some (key, body))
    (hv : WireValue.read? depth key body = some (value, rest)) (hf : kind.field? key.number = some fieldKind) :
    decodeAll? depth kind input = (ofWire? depth key.number fieldKind value).bind fun first =>
      (decodeAll? depth kind rest).map (first :: ·) := by
  have hne : input ≠ [] := by
    rintro rfl
    simp [WireKey.read?, Bytes.varint?, Bytes.readVarint] at hk
  rw [decodeAll?, if_neg hne]
  split
  next hk' =>
    rw [hk] at hk'
    cases hk'
  next hk' =>
    rw [hk] at hk'
    cases hk'
    split
    next hv' =>
      rw [hv] at hv'
      cases hv'
    next hv' =>
      rw [hv] at hv'
      cases hv'
      rw [hf]
      -- Kind and value fit each other in five of the cases, and two of these read the value further.
      cases fieldKind <;> cases value <;>
        first
        | rfl
        | (simp only [ofWire?]
           split <;> simp only [*, Option.bind_none, Option.bind_some])

theorem decodeAll?_keyed {depth n : Nat} {kind : MessageKind} {wire : WireType} {fieldKind : FieldKind}
    {bytes rest : Bytes} {value : WireValue} (hf : kind.field? n = some fieldKind)
    (hv : WireValue.read? depth ⟨n, wire⟩ (bytes ++ rest) = some (value, rest)) :
    decodeAll? depth kind (WireKey.bytes ⟨n, wire⟩ ++ bytes ++ rest) =
      (ofWire? depth n fieldKind value).bind fun first => (decodeAll? depth kind rest).map (first :: ·) := by
  obtain ⟨hpos, hlt⟩ := MessageKind.field?_bounds hf
  have hk : WireKey.read? (WireKey.bytes ⟨n, wire⟩ ++ (bytes ++ rest)) = some (⟨n, wire⟩, bytes ++ rest) :=
    WireKey.read?_bytes hpos hlt (bytes ++ rest)
  rw [← List.append_assoc] at hk
  exact decodeAll?_of_read hk hv hf

theorem read?_delimited {depth n : Nat} {bytes : Bytes} (h : bytes.length < 2 ^ 64) (rest : Bytes) :
    WireValue.read? depth ⟨n, .delimited⟩ (bytes.delimited ++ rest) = some (.delimited bytes, rest) := by
  simp only [WireValue.read?, Bytes.delimited?_delimited h, Option.map_some]

theorem length_lt_of_delimited {n : Nat} {bytes : Bytes}
    (h : (WireKey.bytes ⟨n, .delimited⟩ ++ bytes.delimited).length < 2 ^ 64) : bytes.length < 2 ^ 64 := by
  have hlt := bytes.length_lt_delimited
  rw [List.length_append] at h
  omega

/-- A field of bytes is read off the front of its message unless it cannot be read. -/
theorem decodeAll?_delimited {depth n : Nat} {kind : MessageKind} {fieldKind : FieldKind} {bytes : Bytes}
    (hf : kind.field? n = some fieldKind)
    (hsize : (WireKey.bytes ⟨n, .delimited⟩ ++ bytes.delimited).length < 2 ^ 64) (rest : Bytes) :
    decodeAll? depth kind (WireKey.bytes ⟨n, .delimited⟩ ++ bytes.delimited ++ rest) =
      (ofWire? depth n fieldKind (.delimited bytes)).bind fun first =>
        (decodeAll? depth kind rest).map (first :: ·) :=
  decodeAll?_keyed hf (read?_delimited (length_lt_of_delimited hsize) rest)

mutual

/-- A field that fits is read off the front of its message, whatever follows it. -/
theorem decodeAll?_encode {depth : Nat} {kind : MessageKind} (rest : Bytes) : (field : Field) →
    field.Fits depth kind → field.encode.length < 2 ^ 64 →
    decodeAll? depth kind (field.encode ++ rest) = (decodeAll? depth kind rest).map (field :: ·)
  | number n value, ⟨hf, hvalue⟩, _ => by
    have hv : WireValue.read? depth ⟨n, .varint⟩ (Bytes.ofVarint value ++ rest) = some (.varint value, rest) := by
      simp only [WireValue.read?, Bytes.varint?_ofVarint hvalue, Option.map_some]
    exact decodeAll?_keyed hf hv
  | eight n value, ⟨hf, hlength⟩, _ => by
    have hsplit := Bytes.splitAt?_append value rest
    have hv : WireValue.read? depth ⟨n, .eight⟩ (value ++ rest) = some (.eight value, rest) := by
      rw [hlength] at hsplit
      simp only [WireValue.read?, hsplit, Option.map_some]
    exact decodeAll?_keyed hf hv
  | text n value, hf, hsize => by
    have hfirst : ofWire? depth n .text (.delimited value.utf8) = some (text n value) := by
      rw [ofWire?, Text.ofUtf8?_utf8, Option.map_some]
    rw [encode, decodeAll?_delimited hf hsize, hfirst, Option.bind_some]
  | bytes n value, hf, hsize => decodeAll?_delimited hf hsize rest
  | message n fields, ⟨inner, hf, hdepth, hfields⟩, hsize => by
    have hlength : (encodeAll fields).length < 2 ^ 64 := length_lt_of_delimited hsize
    have hfirst : ofWire? depth n (.message inner) (.delimited (encodeAll fields)) = some (message n fields) := by
      rw [ofWire?, if_neg (by omega), decodeAll?_encodeAll fields hfields hlength, Option.map_some]
    rw [encode, decodeAll?_delimited hf hsize, hfirst, Option.bind_some]

/-- The fields of a message are read back from its bytes. -/
theorem decodeAll?_encodeAll {depth : Nat} {kind : MessageKind} : (fields : List Field) →
    FitAll depth kind fields → (encodeAll fields).length < 2 ^ 64 →
    decodeAll? depth kind (encodeAll fields) = some fields
  | [], _, _ => by rw [encodeAll, decodeAll?, if_pos rfl]
  | field :: fields, ⟨hfield, hfields⟩, hsize => by
    rw [encodeAll, List.length_append] at hsize
    rw [encodeAll, decodeAll?_encode (encodeAll fields) field hfield (by omega),
      decodeAll?_encodeAll fields hfields (by omega), Option.map_some]

end

end Field

end SwiftConnections
