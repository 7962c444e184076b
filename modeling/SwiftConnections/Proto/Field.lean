import SwiftConnections.Proto.Schema
import SwiftConnections.Proto.Wire

namespace SwiftConnections

/-- A field of a message: its number and a value of a known kind. -/
inductive Field
  | number (n value : Nat)
  | eight (n : Nat) (value : Bytes)
  | text (n : Nat) (value : Text)
  | bytes (n : Nat) (value : Bytes)
  | message (n : Nat) (fields : List Field)
  deriving Inhabited

namespace Field

mutual

/-- A field on the wire: its key and its value. -/
def encode : Field → Bytes
  | number n value => WireKey.bytes ⟨n, .varint⟩ ++ Bytes.ofVarint value
  | eight n value => WireKey.bytes ⟨n, .eight⟩ ++ value
  | text n value => WireKey.bytes ⟨n, .delimited⟩ ++ Bytes.delimited value.utf8
  | bytes n value => WireKey.bytes ⟨n, .delimited⟩ ++ value.delimited
  | message n fields => WireKey.bytes ⟨n, .delimited⟩ ++ Bytes.delimited (encodeAll fields)

/-- The fields of a message on the wire. -/
def encodeAll : List Field → Bytes
  | [] => []
  | field :: fields => field.encode ++ encodeAll fields

end

/-- The known fields of a message of this kind, and none if any part of it is malformed. At most `depth`
messages may be nested in it, and an unknown field counts as one of them. -/
def decodeAll? (depth : Nat) (kind : MessageKind) (input : Bytes) : Option (List Field) :=
  if input = [] then some []
  else
    match hk : WireKey.read? input with
    | none => none
    | some (key, rest) =>
      match hv : WireValue.read? depth key rest with
      | none => none
      | some (value, rest) =>
        have hlt := WireKey.read?_length hk
        have hle := WireValue.read?_size hv
        match kind.field? key.number with
        | none => if depth = 0 then none else decodeAll? depth kind rest
        | some fieldKind =>
          let first? :=
            match fieldKind, value with
            | .number, .varint n => some (number key.number n)
            | .eight, .eight value => some (eight key.number value)
            | .text, .delimited value => (Text.ofUtf8? value).map (text key.number)
            | .bytes, .delimited value => some (bytes key.number value)
            | .message inner, .delimited value =>
              if depth = 0 then none
              else
                have : value.length < input.length := by simp only [WireValue.size] at hle; omega
                (decodeAll? (depth - 1) inner value).map (message key.number)
            | _, _ => none
          match first? with
          | none => none
          | some first => (decodeAll? depth kind rest).map (first :: ·)
termination_by input.length

/-- Messages may be nested to this depth. -/
def depthLimit : Nat :=
  100

/-- The fields of a whole message. -/
def decode? (kind : MessageKind) (bytes : Bytes) : Option (List Field) :=
  decodeAll? depthLimit kind bytes

/-- The values of all fields with this number that hold text. -/
def texts (n : Nat) (fields : List Field) : List Text :=
  fields.filterMap fun
    | text m value => if m = n then some value else none
    | _ => none

/-- The text of a field that is given at most once: the last of several counts. -/
def text? (n : Nat) (fields : List Field) : Option Text :=
  (texts n fields).getLast?

/-- The truth value of a field that is given at most once. -/
def flag? (n : Nat) (fields : List Field) : Option Bool :=
  (fields.filterMap fun
    | number m value => if m = n then some (value != 0) else none
    | _ => none).getLast?

/-- The messages of all fields with this number. -/
def messages (n : Nat) (fields : List Field) : List (List Field) :=
  fields.filterMap fun
    | message m inner => if m = n then some inner else none
    | _ => none

/-- The message of a field that is given at most once: several are one, with the fields of all. -/
def message? (n : Nat) (fields : List Field) : Option (List Field) :=
  match messages n fields with
  | [] => none
  | parts => some parts.flatten

end Field

end SwiftConnections
