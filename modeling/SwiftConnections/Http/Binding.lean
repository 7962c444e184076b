import SwiftConnections.Http.OptionText
import SwiftConnections.Http.PathTemplate

namespace SwiftConnections

/-- The verbs of HTTP that the generated connections can send. -/
inductive Verb
  | get
  | post
  | delete
  deriving DecidableEq

namespace Verb

/-- The number of the verb's field in a rule. -/
def tag : Verb → Nat
  | get => 2
  | post => 4
  | delete => 5

def ofTag? (n : Nat) : Option Verb :=
  [get, post, delete].find? (·.tag = n)

/-- The verb in Swift. -/
def swift : Verb → Text
  | get => ".get"
  | post => ".post"
  | delete => ".delete"

end Verb

/-- The verb and path of a method, and whether the request is sent as the body. -/
structure HttpBinding where
  verb : Verb
  path : PathTemplate
  hasBody : Bool
  deriving DecidableEq

/-- Why the options of a method give no binding. -/
inductive BindingError
  | noVersionedPath
  | malformedLine (line : Text)
  | unrecognizedVerb (tag : Nat)
  deriving DecidableEq

def BindingError.message : BindingError → Text
  | noVersionedPath => "no line containing \"v1\" in method options"
  | malformedLine line => "binding line '" ++ line ++ "' is not of the form <tag>: \"<path>\""
  | unrecognizedVerb tag => "unrecognized HTTP verb tag " ++ Text.ofNat tag

/-- The number below 2^32 that a text denotes: decimal digits with at most one plus sign before them. -/
def Text.toTag? (t : Text) : Option Nat :=
  let digits := if t.head? = some '+' then t.tail else t
  (Text.toNat? digits).filter (· < Nat.pow 2 32)

/-- The first line of the options that mentions the version `v1` gives verb and path. A line that gives `*`
as the body, wherever it stands, says that the request is sent. -/
def HttpBinding.ofText (text : Text) : Except BindingError HttpBinding :=
  match text.lines.find? (·.contains "v1") with
  | none => .error .noVersionedPath
  | some found =>
    let line := found.trim
    match line.cut? ": " with
    | none => .error (.malformedLine line)
    | some (number, rest) =>
      match number.toTag? with
      | none => .error (.malformedLine line)
      | some tag =>
        match Verb.ofTag? tag with
        | none => .error (.unrecognizedVerb tag)
        | some verb =>
          let path := ((rest.cut? ": ").map (·.1)).getD rest
          .ok {
            verb
            path := PathTemplate.ofPath (Text.dropBothWhile path (· = '"'))
            hasBody := text.lines.any (·.contains "7: \"*\"") }

/-- The binding of a method, read from the text of its options. -/
def MethodOptions.binding (options : MethodOptions) : Except BindingError HttpBinding :=
  HttpBinding.ofText options.text

end SwiftConnections
