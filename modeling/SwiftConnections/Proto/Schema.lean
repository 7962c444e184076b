import SwiftConnections.Http.Rule

namespace SwiftConnections

/-- The kinds of message that are read or written. -/
inductive MessageKind
  | request
  | response
  | responseFile
  | file
  | service
  | method
  | methodOptions
  | httpRule
  | customPattern
  | message
  | field
  | enumType
  | enumValue
  | extensionRange
  | range
  | oneof
  | fileOptions
  | messageOptions
  | fieldOptions
  | enumOptions
  | enumValueOptions
  | oneofOptions
  | extensionRangeOptions
  | uninterpreted
  | namePart
  deriving DecidableEq

/-- What the value of a known field is. Truth values and enumerations are numbers. -/
inductive FieldKind
  | number
  | eight
  | text
  | bytes
  | message (kind : MessageKind)
  deriving DecidableEq

namespace MessageKind

/-- The known fields of a message by number. -/
def fields : MessageKind → List (Nat × FieldKind)
  | request => [(1, .text), (2, .text), (15, .message file)]
  | response => [(1, .text), (2, .number), (15, .message responseFile)]
  | responseFile => [(1, .text), (2, .text), (15, .text)]
  | file =>
    [(1, .text), (2, .text), (4, .message message), (6, .message service), (8, .message fileOptions)]
  | service => [(1, .text), (2, .message method)]
  | method =>
    [(1, .text), (2, .text), (3, .text), (4, .message methodOptions), (5, .number), (6, .number)]
  | methodOptions => [(33, .number), (httpRuleNumber, .message httpRule)]
  | httpRule =>
    [(1, .text), (2, .text), (3, .text), (4, .text), (5, .text), (6, .text), (7, .text),
      (8, .message customPattern), (11, .message httpRule), (12, .text)]
  | customPattern => [(1, .text), (2, .text)]
  | message =>
    [(1, .text), (2, .message field), (3, .message message), (4, .message enumType),
      (5, .message extensionRange), (6, .message field), (7, .message messageOptions),
      (8, .message oneof), (9, .message range), (10, .text)]
  | field =>
    [(1, .text), (2, .text), (3, .number), (4, .number), (5, .number), (6, .text), (7, .text),
      (8, .message fieldOptions), (9, .number), (10, .text), (17, .number)]
  | enumType =>
    [(1, .text), (2, .message enumValue), (3, .message enumOptions), (4, .message range), (5, .text)]
  | enumValue => [(1, .text), (2, .number), (3, .message enumValueOptions)]
  | extensionRange => [(1, .number), (2, .number), (3, .message extensionRangeOptions)]
  | range => [(1, .number), (2, .number)]
  | oneof => [(1, .text), (2, .message oneofOptions)]
  | fileOptions =>
    [(1, .text), (8, .text), (9, .number), (10, .number), (11, .text), (16, .number), (17, .number),
      (18, .number), (20, .number), (23, .number), (27, .number), (31, .number), (36, .text),
      (37, .text), (39, .text), (40, .text), (41, .text), (42, .number), (44, .text), (45, .text),
      (999, .message uninterpreted)]
  | messageOptions =>
    [(1, .number), (2, .number), (3, .number), (7, .number), (999, .message uninterpreted)]
  | fieldOptions =>
    [(1, .number), (2, .number), (3, .number), (5, .number), (6, .number), (10, .number),
      (999, .message uninterpreted)]
  | enumOptions => [(2, .number), (3, .number), (999, .message uninterpreted)]
  | enumValueOptions => [(1, .number), (999, .message uninterpreted)]
  | oneofOptions => [(999, .message uninterpreted)]
  | extensionRangeOptions => [(999, .message uninterpreted)]
  | uninterpreted =>
    [(2, .message namePart), (3, .text), (4, .number), (5, .number), (6, .eight), (7, .bytes), (8, .text)]
  | namePart => [(1, .text), (2, .number)]

/-- What the field with a number is in this message, if it is known. -/
def field? (kind : MessageKind) (number : Nat) : Option FieldKind :=
  kind.fields.lookup number

end MessageKind

end SwiftConnections
