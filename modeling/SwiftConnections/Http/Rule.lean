import SwiftConnections.Text

namespace SwiftConnections

/-- The verb of a binding with its path. -/
inductive HttpPattern
  | get (path : Text)
  | put (path : Text)
  | post (path : Text)
  | delete (path : Text)
  | patch (path : Text)
  | custom (kind path : Text)
  deriving DecidableEq

/-- How a method is reached over HTTP. Further bindings of the same method are rules of their own. -/
structure HttpRule where
  selector : Text := []
  pattern : Option HttpPattern := none
  body : Text := []
  additional : List HttpRule := []
  responseBody : Text := []
  deriving Inhabited

/-- The number of the field that carries the HTTP rule among the options of a method. -/
def httpRuleNumber : Nat :=
  72295728

/-- The options of a method that matter to the generated code. -/
structure MethodOptions where
  deprecated : Bool := false
  http : Option HttpRule := none

end SwiftConnections
