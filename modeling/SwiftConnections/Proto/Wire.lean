import SwiftConnections.Text

namespace SwiftConnections

/-- Bytes as they are sent and stored. -/
abbrev Bytes := List UInt8

namespace Bytes

/-- A number in groups of seven bits, the lowest first. Every byte but the last has its high bit set. -/
def ofVarint (n : Nat) : Bytes :=
  if n < 128 then [n.toUInt8] else (n % 128 + 128).toUInt8 :: ofVarint (n / 128)
termination_by n
decreasing_by omega

/-- The number at the start of the bytes if it takes at most `left` bytes, and what follows it. A tenth group
has a single bit of the 64 left. -/
def readVarint (left : Nat) (bytes : Bytes) : Option (Nat × Bytes) :=
  match left, bytes with
  | 0, _ => none
  | _ + 1, [] => none
  | left + 1, b :: rest =>
    if b.toNat < 128 then
      if left = 0 ∧ 1 < b.toNat then none else some (b.toNat, rest)
    else (readVarint left rest).map fun (high, rest) => (b.toNat - 128 + 128 * high, rest)

/-- The number of 64 bits at the start of the bytes. -/
def varint? (bytes : Bytes) : Option (Nat × Bytes) :=
  readVarint 10 bytes

/-- The first `n` bytes and the others, if there are that many. -/
def splitAt? (n : Nat) (bytes : Bytes) : Option (Bytes × Bytes) :=
  if n ≤ bytes.length then some (bytes.splitAt n) else none

/-- Bytes behind their number. -/
def delimited (bytes : Bytes) : Bytes :=
  ofVarint bytes.length ++ bytes

/-- The bytes that a number announces, and what follows them. -/
def delimited? (bytes : Bytes) : Option (Bytes × Bytes) :=
  match bytes.varint? with
  | none => none
  | some (n, rest) => rest.splitAt? n

theorem readVarint_length {left n : Nat} {bytes rest : Bytes} (h : readVarint left bytes = some (n, rest)) :
    rest.length < bytes.length := by
  induction left generalizing bytes n rest with
  | zero => simp [readVarint] at h
  | succ left ih =>
    cases bytes with
    | nil => simp [readVarint] at h
    | cons b tail =>
      simp only [readVarint] at h
      split at h
      · split at h
        · simp at h
        · obtain ⟨-, rfl⟩ := Prod.mk.inj (Option.some.inj h)
          exact Nat.lt_succ_self _
      · obtain ⟨found, hf, hr⟩ := Option.map_eq_some_iff.mp h
        have hlt := ih hf
        obtain ⟨-, rfl⟩ := Prod.mk.inj hr
        exact Nat.lt_succ_of_lt hlt

theorem varint?_length {n : Nat} {bytes rest : Bytes} (h : bytes.varint? = some (n, rest)) :
    rest.length < bytes.length :=
  readVarint_length h

theorem splitAt?_length {n : Nat} {bytes first rest : Bytes} (h : bytes.splitAt? n = some (first, rest)) :
    first.length + rest.length = bytes.length := by
  unfold splitAt? at h
  split at h
  · rw [List.splitAt_eq] at h
    obtain ⟨rfl, rfl⟩ := Prod.mk.inj (Option.some.inj h)
    rw [← List.length_append, List.take_append_drop]
  · simp at h

theorem delimited?_length {bytes first rest : Bytes} (h : bytes.delimited? = some (first, rest)) :
    first.length + rest.length < bytes.length := by
  unfold delimited? at h
  split at h
  · simp at h
  next hv => exact splitAt?_length h ▸ varint?_length hv

end Bytes

/-- How the value of a field is laid out. -/
inductive WireType
  | varint
  | eight
  | delimited
  | groupStart
  | groupEnd
  | four
  deriving DecidableEq

namespace WireType

def all : List WireType :=
  [varint, eight, delimited, groupStart, groupEnd, four]

/-- The number of a layout in the low three bits of a key. -/
def code : WireType → Nat
  | varint => 0
  | eight => 1
  | delimited => 2
  | groupStart => 3
  | groupEnd => 4
  | four => 5

def ofCode? (n : Nat) : Option WireType :=
  all.find? (·.code = n)

end WireType

/-- What stands before the value of a field. -/
structure WireKey where
  number : Nat
  wire : WireType
  deriving DecidableEq

namespace WireKey

def bytes (key : WireKey) : Bytes :=
  Bytes.ofVarint (8 * key.number + key.wire.code)

/-- The key at the start of the bytes. Field numbers start at one, and a key has at most 32 bits. -/
def read? (bytes : Bytes) : Option (WireKey × Bytes) :=
  match bytes.varint? with
  | none => none
  | some (n, rest) =>
    match WireType.ofCode? (n % 8) with
    | none => none
    | some wire => if n < Nat.pow 2 32 ∧ 1 ≤ n / 8 then some (⟨n / 8, wire⟩, rest) else none

theorem read?_length {key : WireKey} {bytes rest : Bytes} (h : read? bytes = some (key, rest)) :
    rest.length < bytes.length := by
  unfold read? at h
  split at h
  · simp at h
  next hv =>
    split at h
    · simp at h
    · split at h
      · obtain ⟨-, rfl⟩ := Prod.mk.inj (Option.some.inj h)
        exact Bytes.varint?_length hv
      · simp at h

end WireKey

/-- The value of a field before its type is known. A group is only ever passed over. -/
inductive WireValue
  | varint (n : Nat)
  | eight (bytes : Bytes)
  | delimited (bytes : Bytes)
  | four (bytes : Bytes)
  | group

/-- The bytes after a value that is no group. -/
def skipPlain? (wire : WireType) (bytes : Bytes) : Option Bytes :=
  match wire with
  | .varint => bytes.varint?.map (·.2)
  | .eight => (bytes.splitAt? 8).map (·.2)
  | .delimited => bytes.delimited?.map (·.2)
  | .four => (bytes.splitAt? 4).map (·.2)
  | .groupStart | .groupEnd => none

theorem skipPlain?_length {wire : WireType} {bytes rest : Bytes} (h : skipPlain? wire bytes = some rest) :
    rest.length ≤ bytes.length := by
  cases wire <;> simp only [skipPlain?, Option.map_eq_some_iff, Prod.exists, reduceCtorEq] at h
  · obtain ⟨_, _, h, rfl⟩ := h
    exact Nat.le_of_lt (Bytes.varint?_length h)
  · obtain ⟨_, _, h, rfl⟩ := h
    exact Bytes.splitAt?_length h ▸ Nat.le_add_left _ _
  · obtain ⟨_, _, h, rfl⟩ := h
    exact Nat.le_of_lt (Nat.lt_of_le_of_lt (Nat.le_add_left _ _) (Bytes.delimited?_length h))
  · obtain ⟨_, _, h, rfl⟩ := h
    exact Bytes.splitAt?_length h ▸ Nat.le_add_left _ _

/-- The bytes after the groups with the numbers `pending`, the innermost first, have all ended. A group ends
with its own number. Fewer than `depth` groups may be open around a field. -/
def skipGroups? (depth : Nat) (pending : List Nat) (bytes : Bytes) : Option Bytes :=
  match pending with
  | [] => some bytes
  | number :: outer =>
    match h : WireKey.read? bytes with
    | none => none
    | some (key, rest) =>
      have := WireKey.read?_length h
      if key.wire = .groupEnd then
        if key.number = number then skipGroups? depth outer rest else none
      else if depth ≤ outer.length + 1 then none
      else if key.wire = .groupStart then skipGroups? depth (key.number :: pending) rest
      else
        match h : skipPlain? key.wire rest with
        | none => none
        | some rest =>
          have := skipPlain?_length h
          skipGroups? depth pending rest
termination_by bytes.length

theorem skipGroups?_length {depth : Nat} {pending : List Nat} {bytes rest : Bytes}
    (h : skipGroups? depth pending bytes = some rest) : rest.length ≤ bytes.length := by
  fun_induction skipGroups? depth pending bytes with
  | case1 bytes => exact Option.some.inj h ▸ Nat.le_refl _
  | case2 => simp at h
  | case3 _ _ _ _ _ hlt _ ih => exact Nat.le_of_lt (Nat.lt_of_le_of_lt (ih h) hlt)
  | case4 => simp at h
  | case5 => simp at h
  | case6 _ _ _ _ _ _ hlt _ _ _ ih => exact Nat.le_of_lt (Nat.lt_of_le_of_lt (ih h) hlt)
  | case7 => simp at h
  | case8 _ _ _ _ _ _ hlt _ _ _ _ _ hle ih =>
    exact Nat.le_of_lt (Nat.lt_of_le_of_lt (Nat.le_trans (ih h) hle) hlt)

/-- The value of the field with this key, and what follows it. -/
def WireValue.read? (depth : Nat) (key : WireKey) (bytes : Bytes) : Option (WireValue × Bytes) :=
  match key.wire with
  | .varint => bytes.varint?.map fun (n, rest) => (.varint n, rest)
  | .eight => (bytes.splitAt? 8).map fun (value, rest) => (.eight value, rest)
  | .delimited => bytes.delimited?.map fun (value, rest) => (.delimited value, rest)
  | .groupStart => (skipGroups? depth [key.number] bytes).map fun rest => (.group, rest)
  | .groupEnd => none
  | .four => (bytes.splitAt? 4).map fun (value, rest) => (.four value, rest)

/-- The number of bytes inside a value, which is none where no other field is in it. -/
def WireValue.size : WireValue → Nat
  | delimited bytes => bytes.length
  | varint _ | eight _ | four _ | group => 0

theorem WireValue.read?_size {depth : Nat} {key : WireKey} {bytes rest : Bytes} {value : WireValue}
    (h : read? depth key bytes = some (value, rest)) : value.size + rest.length ≤ bytes.length := by
  unfold read? at h
  split at h <;> simp only [Option.map_eq_some_iff, Prod.exists, Prod.mk.injEq, reduceCtorEq] at h
  · obtain ⟨_, _, h, rfl, rfl⟩ := h
    simpa [size] using Nat.le_of_lt (Bytes.varint?_length h)
  · obtain ⟨_, _, h, rfl, rfl⟩ := h
    exact Bytes.splitAt?_length h ▸ Nat.add_le_add_right (Nat.zero_le _) _
  · obtain ⟨_, _, h, rfl, rfl⟩ := h
    exact Nat.le_of_lt (Bytes.delimited?_length h)
  · obtain ⟨_, h, rfl, rfl⟩ := h
    simpa [size] using skipGroups?_length h
  · obtain ⟨_, _, h, rfl, rfl⟩ := h
    exact Bytes.splitAt?_length h ▸ Nat.add_le_add_right (Nat.zero_le _) _

end SwiftConnections
