import SwiftConnections.Text

namespace SwiftConnections

/-- Source text without blanks at the ends of its lines, and with one line feed after its last line that is
not empty. -/
def tidy (source : Text) : Text :=
  (Text.join "\n" (source.lines.map Text.trimEnd)).dropEndWhile (· = '\n') ++ "\n"

end SwiftConnections
