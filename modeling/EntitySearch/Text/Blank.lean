import EntitySearch.Text.Ranges

/-!
# Blank characters

The characters that separate the terms of a query string: those with the property `White_Space`.

* `isBlank`: the property.
* `terms`: the maximal runs of other characters.
-/

namespace EntitySearch.Text

/-- The code points with the property `White_Space`. -/
def blankRanges : Ranges := [
   (0x9, 0xd), (0x20, 0x20), (0x85, 0x85), (0xa0, 0xa0), (0x1680, 0x1680), (0x2000, 0x200a),
   (0x2028, 0x2029), (0x202f, 0x202f), (0x205f, 0x205f), (0x3000, 0x3000)]

/-- Whether a character is blank. -/
def isBlank (c : Char) : Bool := blankRanges.contains c.toNat

/-- The maximal runs of characters that fail `separates`, none of them empty. -/
def runs (separates : Char → Bool) : List Char → List (List Char)
  | [] => []
  | c :: rest =>
    if separates c then runs separates rest
    else match rest, runs separates rest with
      | [], found => [c] :: found
      | d :: _, found =>
        if separates d then [c] :: found
        else match found with
          | [] => [[c]]
          | run :: others => (c :: run) :: others

/-- The terms of a text: its maximal runs of characters that are not blank. -/
def terms (text : List Char) : List (List Char) := runs isBlank text

end EntitySearch.Text
