import SwiftConnections.Text

namespace SwiftConnections

/-- How a table came into being, which decides what may still be added to it. -/
inductive TableOrigin
  /-- By a header of its own. -/
  | header
  /-- As a part of the header of another table. -/
  | implied
  /-- As a part of a dotted key. -/
  | dotted
  /-- Between braces. -/
  | inline
  deriving DecidableEq

/-- A value of a configuration file. Numbers and moments are only told apart from the other kinds. -/
inductive Toml
  | text (value : Text)
  | boolean (value : Bool)
  /-- A number, which is readable if its digits and its size are such as numbers have. -/
  | number (isReadable : Bool)
  | moment
  /-- A list of values. One that headers made holds tables, and headers may add to it. -/
  | array (ofHeaders : Bool) (items : List Toml)
  | table (origin : TableOrigin) (entries : List (Text × Toml))
  deriving Inhabited

end SwiftConnections
