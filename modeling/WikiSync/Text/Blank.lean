/-!
# Blank Text

White space as Unicode defines it, and the trimming of it. A text is blank
when nothing is left of it after trimming.

## Main definitions

* `isBlankChar`: The 25 characters with the white space property.
* `trimEnd`, `trim`: A text without the white space at its end, at both ends.
* `isBlank`: Whether a text holds nothing but white space.
* `firstWord?`: The first run of other characters.
-/

namespace WikiSync.Text

/-- The characters with the Unicode white space property. -/
def isBlankChar (c : Char) : Bool :=
  let n := c.toNat
  (0x09 ≤ n && n ≤ 0x0D) || n == 0x20 || n == 0x85 || n == 0xA0 || n == 0x1680 ||
    (0x2000 ≤ n && n ≤ 0x200A) || n == 0x2028 || n == 0x2029 || n == 0x202F ||
    n == 0x205F || n == 0x3000

/-- A list of characters without the ones at its end that satisfy `p`. -/
def dropEndWhile (p : Char → Bool) (cs : List Char) : List Char :=
  (cs.reverse.dropWhile p).reverse

/-- A list of characters without the white space at its end. -/
def trimEnd (cs : List Char) : List Char :=
  dropEndWhile isBlankChar cs

/-- A list of characters without the white space at its ends. -/
def trim (cs : List Char) : List Char :=
  trimEnd (cs.dropWhile isBlankChar)

/-- Whether a text holds nothing but white space. -/
def isBlank (s : String) : Bool :=
  s.toList.all isBlankChar

/-- The first run of characters that are not white space. -/
def firstWord? (s : String) : Option String :=
  match (s.toList.dropWhile isBlankChar).takeWhile (fun c => !isBlankChar c) with
  | [] => none
  | word => some (String.ofList word)

end WikiSync.Text
