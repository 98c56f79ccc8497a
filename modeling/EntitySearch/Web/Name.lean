import EntitySearch.Text.Composition
import EntitySearch.Text.Direction
import EntitySearch.Text.Joining
import EntitySearch.Web.NameTable
import EntitySearch.Web.Punycode

/-!
# Names of hosts

A name has parts with dots between them. What stands in the parts is written in ASCII; a part with
other characters is written as a code.

* `NamePart`: a part, and `NamePart.ofText?`: how it is read.
* `HostName.ascii?`: how a name is written.
-/

namespace EntitySearch

/-- A part of a name. -/
structure NamePart where
  /-- How it is written. -/
  written : List Char
  /-- What it stands for. -/
  meaning : List Char

namespace NamePart

/-- The first characters of a code. -/
def codeMark : List Char := ['x', 'n', '-', '-']

/-- Whether a text can be a part of a name, or what one stands for: its characters stand for
themselves, it does not begin with a mark, and its joiners have a meaning. -/
def isSound (text : List Char) : Bool :=
  text.all NameTable.isPlain && !text.head?.any Text.isMark && Text.joinersFit [] text &&
    !codeMark.isPrefixOf text

/-- Reads a code. It stands for a text with other characters than those of ASCII. -/
def ofCode? (code : List Char) : Option NamePart :=
  if 2000 < code.length then none
  else do
    let meaning ← Punycode.decode? code
    if isSound meaning && Text.composed meaning = meaning && !meaning.all Punycode.isBasic then
      some ⟨codeMark ++ code, meaning⟩
    else none

/-- Reads a part of a name. -/
def ofText? (text : List Char) : Option NamePart :=
  if codeMark.isPrefixOf text then ofCode? (text.drop codeMark.length)
  else if !isSound text then none
  else if text.all Punycode.isBasic then some ⟨text, text⟩
  else if 1000 < text.length then none
  else some ⟨codeMark ++ Punycode.encode text, text⟩

end NamePart

namespace HostName

/-- What the characters of a name stand for, in its composed form. -/
def meaning? (name : List Char) : Option (List Char) :=
  (name.mapM NameTable.meaning?).map fun meanings => Text.composed meanings.flatten

/-- How a name is written. If some part is written to the left, each of them can be read in only one
way. -/
def ascii? (name : String) : Option String := do
  let meaning ← meaning? name.toList
  let parts ← ((String.ofList meaning).splitOn ".").mapM fun part => NamePart.ofText? part.toList
  let mixed := parts.any fun part => Text.isLeftward part.meaning
  if mixed && !parts.all fun part => Text.hasOneReading part.meaning then none
  else some (".".intercalate (parts.map fun part => String.ofList part.written))

end HostName

end EntitySearch
