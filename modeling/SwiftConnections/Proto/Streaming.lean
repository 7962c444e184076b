import SwiftConnections.Text

namespace SwiftConnections

/-- Which sides of a method send a stream of messages. -/
inductive StreamingShape
  | unary
  | clientStreaming
  | serverStreaming
  | bidirectionalStreaming
  deriving DecidableEq

namespace StreamingShape

def ofFlags : (client server : Bool) → StreamingShape
  | false, false => unary
  | true, false => clientStreaming
  | false, true => serverStreaming
  | true, true => bidirectionalStreaming

/-- Connections implement methods whose client sends one message. -/
def isSupported : StreamingShape → Bool
  | unary | serverStreaming => true
  | clientStreaming | bidirectionalStreaming => false

def name : StreamingShape → Text
  | unary => "unary"
  | clientStreaming => "clientStreaming"
  | serverStreaming => "serverStreaming"
  | bidirectionalStreaming => "bidirectionalStreaming"

end StreamingShape

end SwiftConnections
