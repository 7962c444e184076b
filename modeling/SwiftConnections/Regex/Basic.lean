import SwiftConnections.Text

namespace SwiftConnections

/-- The flags of a regular expression that decide what it may hold. -/
structure RegexModes where
  /-- A letter stands for both of its cases. -/
  ignoresCase : Bool := false
  /-- The units are characters, and otherwise bytes. -/
  isUnicode : Bool := true
  /-- Blanks and comments play no part. -/
  skipsBlanks : Bool := false

/-- What a class of characters holds. -/
inductive CharClass
  | empty
  | char (c : Char)
  | range (first last : Char)
  /-- A class of ASCII by its name, or all that is not in it. -/
  | named (isNegated : Bool)
  /-- Digits, blanks or the characters of words by a letter, or all others. -/
  | shorthand (isNegated : Bool)
  | union (classes : List CharClass)
  /-- What two classes have in common, or what one of them has alone. -/
  | combination (left right : CharClass)
  /-- A class in brackets of its own, or all that is not in it. -/
  | bracketed (isNegated : Bool) (inside : CharClass)

/-- A regular expression. Its parts know the flags that they stand under. -/
inductive Regex
  | empty
  /-- A character, which may be given by a code of one byte. -/
  | char (modes : RegexModes) (isByte : Bool) (c : Char)
  | anyChar (modes : RegexModes)
  | anchor
  | wordBoundary (modes : RegexModes)
  | charClass (modes : RegexModes) (inside : CharClass)
  /-- A change of flags, which matches nothing. -/
  | flags
  | repetition (repeated : Regex)
  | group (inside : Regex)
  | sequence (items : List Regex)
  | choice (branches : List Regex)

namespace CharClass

mutual

/-- The class and all classes in it. -/
def parts : CharClass → List CharClass
  | union classes => union classes :: partsOfAll classes
  | combination left right => combination left right :: (left.parts ++ right.parts)
  | bracketed isNegated inside => bracketed isNegated inside :: inside.parts
  | c => [c]

def partsOfAll : List CharClass → List CharClass
  | [] => []
  | c :: classes => c.parts ++ partsOfAll classes

end

mutual

/-- How deep classes are nested in the class. -/
def depth : CharClass → Nat
  | union classes => depthOfAll classes + 1
  | combination left right => max left.depth right.depth + 1
  | bracketed _ inside => inside.depth + 1
  | _ => 0

def depthOfAll : List CharClass → Nat
  | [] => 0
  | c :: classes => max c.depth (depthOfAll classes)

end

/-- A class may hold the character: other cases are known for ASCII only, and so are single bytes. -/
def admits (modes : RegexModes) (c : Char) : Bool :=
  if modes.isUnicode then !modes.ignoresCase else c.toNat < 128

/-- The class is known by itself, whatever is known of the classes in it. A class of bytes must not hold any
beyond ASCII. -/
def isKnown (modes : RegexModes) : CharClass → Bool
  | char c => admits modes c
  | range _ last => admits modes last
  | named isNegated => if modes.isUnicode then !modes.ignoresCase else !isNegated
  | shorthand isNegated => !modes.isUnicode && !isNegated
  | bracketed isNegated _ => modes.isUnicode || !isNegated
  | _ => true

end CharClass

namespace Regex

mutual

/-- The expression and all expressions in it. -/
def parts : Regex → List Regex
  | repetition repeated => repetition repeated :: repeated.parts
  | group inside => group inside :: inside.parts
  | sequence items => sequence items :: partsOfAll items
  | choice branches => choice branches :: partsOfAll branches
  | r => [r]

def partsOfAll : List Regex → List Regex
  | [] => []
  | r :: rs => r.parts ++ partsOfAll rs

end

mutual

/-- How deep expressions and classes are nested in the expression. -/
def depth : Regex → Nat
  | charClass _ inside => inside.depth
  | repetition repeated => repeated.depth + 1
  | group inside => inside.depth + 1
  | sequence items => depthOfAll items + 1
  | choice branches => depthOfAll branches + 1
  | _ => 0

def depthOfAll : List Regex → Nat
  | [] => 0
  | r :: rs => max r.depth (depthOfAll rs)

end

/-- The expression is known by itself, whatever is known of the expressions in it: it needs no table of
characters, and all that it matches are whole characters. -/
def isKnown : Regex → Bool
  | char modes isByte c => if modes.isUnicode then !modes.ignoresCase else !isByte || c.toNat < 128
  | anyChar modes => modes.isUnicode
  | charClass modes inside => inside.parts.all (·.isKnown modes)
  | _ => true

/-- The expression is the boundary of a word with letters of any script. -/
def isUnicodeBoundary : Regex → Bool
  | wordBoundary modes => modes.isUnicode
  | _ => false

end Regex

end SwiftConnections
