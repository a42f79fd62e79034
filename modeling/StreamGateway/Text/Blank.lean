/-! # Blank characters

The characters that separate words in any script: the ASCII controls from tab to carriage return,
the space, and the separators outside ASCII. -/
namespace StreamGateway.Text

/-- A character of the Unicode class `White_Space`. -/
def isBlank (c : Char) : Bool :=
  let n := c.toNat
  (9 ≤ n && n ≤ 13) || n == 0x20 || n == 0x85 || n == 0xA0 || n == 0x1680 ||
    (0x2000 ≤ n && n ≤ 0x200A) || n == 0x2028 || n == 0x2029 || n == 0x202F || n == 0x205F ||
    n == 0x3000

/-- The text without the blanks around it. -/
def trim (s : String) : String :=
  String.ofList (((s.toList.dropWhile isBlank).reverse.dropWhile isBlank).reverse)

/-- The pieces of a list between its separators; there is always at least one. -/
def pieces (sep : Char) : List Char → List (List Char)
  | [] => [[]]
  | c :: cs =>
    if c = sep then [] :: pieces sep cs
    else match pieces sep cs with
      | [] => [[c]]
      | p :: ps => (c :: p) :: ps

/-- The words of a text: what stands between blanks. -/
def words (cs : List Char) : List (List Char) :=
  (pieces ' ' (cs.map fun c => if isBlank c then ' ' else c)).filter (!·.isEmpty)

/-- ASCII letters in lower case, all other characters as they are. -/
def lower (s : String) : String := String.ofList (s.toList.map Char.toLower)

end StreamGateway.Text
