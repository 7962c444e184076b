import SwiftConnections.Http.Rule
import SwiftConnections.Proto.Message

namespace SwiftConnections

/-- The options of a method as they are given, each of which may be absent. -/
structure MethodOptionsDecl where
  deprecated : Option Bool := none
  http : Option HttpRule := none

structure MethodDecl where
  name : Option Text := none
  /-- The reference to the type of the method's requests. -/
  input : Option Text := none
  /-- The reference to the type of the method's responses. -/
  output : Option Text := none
  options : Option MethodOptionsDecl := none
  clientStreaming : Option Bool := none
  serverStreaming : Option Bool := none

structure ServiceDecl where
  name : Option Text := none
  methods : List MethodDecl := []

structure FileOptionsDecl where
  swiftPrefix : Option Text := none

structure FileDecl where
  name : Option Text := none
  package : Option Text := none
  messages : List MessageDecl := []
  services : List ServiceDecl := []
  options : Option FileOptionsDecl := none

/-- What the compiler hands to a plugin: the files it was asked for, the plugin's parameter, and the
declarations of those files and of all they import. -/
structure Request where
  filesToGenerate : List Text := []
  parameter : Option Text := none
  files : List FileDecl := []

end SwiftConnections
