import SwiftConnections.Text

namespace SwiftConnections

/-- A path name in three parts that make it up in this order. -/
structure PathParts where
  /-- The directories, with the slash after the last one. -/
  dir : Text
  /-- The file's name without its suffix. -/
  base : Text
  /-- From the last dot of the file's name on. -/
  suffix : Text
  deriving DecidableEq

/-- The text through the last separator, and what follows it. -/
def Text.cutAfterLast (t : Text) (sep : Char) : Text × Text :=
  ((t.reverse.dropWhile (· != sep)).reverse, (t.reverse.takeWhile (· != sep)).reverse)

/-- The parts of a path name. A last segment with no dot is all base. -/
def PathParts.ofPath (path : Text) : PathParts :=
  let (dir, file) := path.cutAfterLast '/'
  let (stem, extension) := file.cutAfterLast '.'
  if stem.isEmpty then ⟨dir, extension, []⟩ else ⟨dir, stem.dropLast, '.' :: extension⟩

end SwiftConnections
