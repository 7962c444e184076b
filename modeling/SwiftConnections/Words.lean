import SwiftConnections.Unicode.Alphanumeric
import SwiftConnections.Unicode.CaseMapping

namespace SwiftConnections

/-- A new word begins with `c` after `previous`: at a capital after a small letter, where digits begin or
end, and at the last of several capitals that a small letter follows. -/
def wordBegins (previous c : Char) (following : Option Char) : Bool :=
  (isLowercase previous && isUppercase c) ||
  (previous.isDigit != c.isDigit) ||
  (isUppercase previous && isUppercase c && following.any isLowercase)

/-- The words of a name as far as it has been read. -/
structure WordScan where
  /-- The words that have ended. -/
  ended : List Text := []
  /-- The characters of the word that goes on, if there is one. -/
  current : Text := []

namespace WordScan

/-- The word that goes on, if there is one, ends here. -/
def cut (s : WordScan) : WordScan :=
  if s.current = [] then s else ⟨s.ended ++ [s.current], []⟩

/-- The next character is read, with a look at the one behind it. Other characters than letters and numbers only separate
words. -/
def push (s : WordScan) (c : Char) (following : Option Char) : WordScan :=
  if isAlphanumeric c then
    let s := if s.current.getLast?.any (wordBegins · c following) then s.cut else s
    { s with current := s.current ++ [c] }
  else s.cut

def run : WordScan → Text → WordScan
  | s, [] => s
  | s, c :: rest => (s.push c rest.head?).run rest

end WordScan

/-- The words of a name, read once from its start. -/
def words (name : Text) : List Text :=
  (WordScan.run {} name).cut.ended

/-- Words that are written in capitals throughout. -/
def capitalWords : List Text :=
  ["id", "url", "http", "https"]

/-- A word with a capital at its start, or in capitals throughout. -/
def capitalized (word : Text) : Text :=
  let lower := word.lower
  if capitalWords.contains lower then lower.upper
  else match lower with
    | [] => []
    | c :: rest => upperChar c ++ rest

/-- The name in camel case with a capital at its start. -/
def upperCamel (name : Text) : Text :=
  (words name).flatMap capitalized

/-- The name in camel case with its first word in small letters. -/
def lowerCamel (name : Text) : Text :=
  match words name with
  | [] => []
  | word :: more => word.lower ++ more.flatMap capitalized

end SwiftConnections
