/-!
White space. `isBlank` holds of the characters with the Unicode property White_Space; these
surround a number without being part of it. The four information separators are white space only
when the end of a line is cut off.
-/
namespace ScriptedStage.Text

/-- A character with the property White_Space. -/
def isBlank (c : Char) : Bool :=
  let n := c.toNat
  (9 ≤ n && n ≤ 13) || n == 32 || n == 0x85 || n == 0xA0 || n == 0x1680 ||
    (0x2000 ≤ n && n ≤ 0x200A) || n == 0x2028 || n == 0x2029 || n == 0x202F || n == 0x205F || n == 0x3000

/-- A character that is cut off at the end of a line. -/
def isTrailing (c : Char) : Bool := isBlank c || (0x1C ≤ c.toNat && c.toNat ≤ 0x1F)

/-- Cuts the characters that satisfy `p` off both ends. -/
def trim (p : Char → Bool) (cs : List Char) : List Char :=
  ((cs.dropWhile p).reverse.dropWhile p).reverse

/-- Cuts white space off the end of a text. -/
def trimEnd (s : String) : String := String.ofList (s.toList.reverse.dropWhile isTrailing).reverse

end ScriptedStage.Text
