/-!
# Wildcard patterns

A star stands for any run of characters, a question mark for one character, and every other
character for itself. A character of the text that equals the pattern's character is taken before
the pattern's character is read as a star. On a mismatch the last star takes one more character.

* `Cursor`: how far a match has come.
* `next?`: one step of a match.
* `glob`: whether a whole text fits a pattern.
-/

namespace EntitySearch.Glob

/-- How far a match has come. -/
structure Cursor where
  /-- The place in the pattern. -/
  pattern : Nat := 0
  /-- The place in the text. -/
  text : Nat := 0
  /-- The place of the last star, and of the text behind what it has taken. -/
  star : Option (Nat × Nat) := none
deriving DecidableEq

/-- Lets the last star take one more character. -/
def retry? (cursor : Cursor) : Option Cursor :=
  match cursor.star with
  | some (pattern, text) => some ⟨pattern + 1, text + 1, some (pattern, text + 1)⟩
  | none => none

/-- One step of a match at the character `x` of the text. -/
def next? (pattern : List Char) (x : Char) (cursor : Cursor) : Option Cursor :=
  match pattern[cursor.pattern]? with
  | some c =>
    if c = '?' || c = x then
      some { cursor with pattern := cursor.pattern + 1, text := cursor.text + 1 }
    else if c = '*' then
      some ⟨cursor.pattern + 1, cursor.text, some (cursor.pattern, cursor.text)⟩
    else retry? cursor
  | none => retry? cursor

/-- A match from a cursor on. It has no result after `fuel` steps. -/
def run (pattern text : List Char) : Nat → Cursor → Option Bool
  | 0, _ => none
  | fuel + 1, cursor =>
    match text[cursor.text]? with
    | none => some ((pattern.drop cursor.pattern).all (· == '*'))
    | some x =>
      match next? pattern x cursor with
      | some cursor => run pattern text fuel cursor
      | none => some false

/-- A bound on the steps of a match: the last star takes a character at most once for every
character of the text, and in between every step moves on in the pattern. -/
def steps (pattern text : List Char) : Nat := (pattern.length + 1) * (text.length + 1) + 1

end Glob

/-- Whether a whole text fits a pattern. -/
def glob (pattern text : List Char) : Bool :=
  (Glob.run pattern text (Glob.steps pattern text) {}).getD false

end EntitySearch
