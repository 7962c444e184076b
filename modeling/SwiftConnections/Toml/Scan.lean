import SwiftConnections.Text

namespace SwiftConnections

/-- A space or a tab. -/
def isSpace (c : Char) : Bool :=
  c = ' ' || c = '\t'

/-- The character may stand in comments and strings: it is no control character except the tab. -/
def isPlain (c : Char) : Bool :=
  c = '\t' || (' ' ≤ c && c ≠ '\x7f')

namespace Text

def skipSpace (t : Text) : Text :=
  t.dropWhile isSpace

/-- What follows the end of a line, if the text begins with one. -/
def afterNewline? : Text → Option Text
  | '\n' :: rest => some rest
  | '\r' :: '\n' :: rest => some rest
  | _ => none

/-- What follows spaces, line ends and comments, unless a comment holds a control character. -/
def skipLines? (inComment : Bool) : Text → Option Text
  | [] => some []
  | '\n' :: rest => skipLines? false rest
  | '\r' :: '\n' :: rest => skipLines? false rest
  | c :: rest =>
    if inComment then if isPlain c then skipLines? true rest else none
    else if isSpace c then skipLines? false rest
    else if c = '#' then skipLines? true rest
    else some (c :: rest)

/-- What follows the rest of the current line, which may hold a comment and nothing else, and lines without
content. -/
def nextLine? (t : Text) : Option Text :=
  let rest := t.skipSpace
  if rest = [] ∨ rest.head? = some '#' ∨ (afterNewline? rest).isSome then skipLines? false rest else none

/-- What follows a given character after spaces. -/
def expect? (c : Char) (t : Text) : Option Text :=
  match t.skipSpace with
  | [] => none
  | d :: rest => if d = c then some rest else none

end Text

end SwiftConnections
