/-!
# Percent encoding

A character that is not allowed in some part of a web address is written there as its UTF-8 bytes,
each a percent sign and two hexadecimal digits.

* `Percent.encode`: a text with the characters of a set encoded.
* `Percent.decode`: the bytes of a text, in which encoded bytes are read.
* `Percent.inFragment`, `Percent.inPath`, `Percent.inUser`, `Percent.inQuery`: the sets of the parts
  of an address.
-/

namespace EntitySearch.Percent

/-- The characters that are encoded everywhere: controls, and all outside of ASCII. -/
def everywhere (c : Char) : Bool := c.toNat < 32 || 126 < c.toNat

/-- The characters that are encoded in a fragment. -/
def inFragment (c : Char) : Bool := everywhere c || [' ', '\x22', '<', '>', '\x60'].contains c

/-- The characters that are encoded in a path. -/
def inPath (c : Char) : Bool := inFragment c || ['#', '?', '\x7b', '\x7d'].contains c

/-- The characters that are encoded in the name and the password of a user. -/
def inUser (c : Char) : Bool :=
  inPath c || ['/', ':', ';', '=', '@', '[', '\\', ']', '^', '|'].contains c

/-- The characters that are encoded in a query; of the special schemes, also the apostrophe. -/
def inQuery (special : Bool) (c : Char) : Bool :=
  everywhere c || [' ', '\x22', '#', '<', '>'].contains c || (special && c = '\x27')

/-- The encoded form of a byte. -/
def encodeByte (byte : UInt8) : List Char :=
  ['%', (Nat.digitChar (byte.toNat / 16)).toUpper, (Nat.digitChar (byte.toNat % 16)).toUpper]

/-- A text with the characters of a set encoded. -/
def encode (set : Char → Bool) (text : List Char) : List Char :=
  text.flatMap fun c => if set c then (String.utf8EncodeChar c).flatMap encodeByte else [c]

/-- The value of a digit in some base up to sixteen. -/
def digit? (base : Nat) (c : Char) : Option Nat :=
  let value :=
    if '0' ≤ c ∧ c ≤ '9' then c.toNat - 48
    else if 'a' ≤ c ∧ c ≤ 'f' then c.toNat - 87
    else if 'A' ≤ c ∧ c ≤ 'F' then c.toNat - 55
    else base
  if value < base then some value else none

/-- The bytes of a text, in which encoded bytes are read. A percent sign in front of anything else
stands for itself. -/
def decode : List Char → List UInt8
  | [] => []
  | '%' :: high :: low :: rest =>
    match digit? 16 high, digit? 16 low with
    | some a, some b => UInt8.ofNat (16 * a + b) :: decode rest
    | _, _ => 37 :: decode (high :: low :: rest)
  | c :: rest => String.utf8EncodeChar c ++ decode rest

/-- The text of bytes, if they are that of a text. -/
def text? (bytes : List UInt8) : Option String := String.fromUTF8? ⟨bytes.toArray⟩

end EntitySearch.Percent
