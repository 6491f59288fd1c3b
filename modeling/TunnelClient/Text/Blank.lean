/-!
# White space

White space as Unicode's `White_Space` property defines it, and trimming by it.
-/

namespace TunnelClient.Text

def isBlank (c : Char) : Bool :=
  let n := c.toNat
  (9 ≤ n && n ≤ 13) || n == 0x20 || n == 0x85 || n == 0xA0 || n == 0x1680
    || (0x2000 ≤ n && n ≤ 0x200A) || n == 0x2028 || n == 0x2029 || n == 0x202F
    || n == 0x205F || n == 0x3000

def trimLeft (cs : List Char) : List Char := cs.dropWhile isBlank

def trimChars (cs : List Char) : List Char :=
  (trimLeft (trimLeft cs).reverse).reverse

def trim (text : String) : String := String.ofList (trimChars text.toList)

def wordsFrom : List Char → List Char → List (List Char)
  | [], [] => []
  | [], word => [word.reverse]
  | c :: rest, word =>
    if isBlank c then
      if word.isEmpty then wordsFrom rest [] else word.reverse :: wordsFrom rest []
    else wordsFrom rest (c :: word)

def words (cs : List Char) : List (List Char) := wordsFrom cs []

def linesFrom : List Char → List Char → List (List Char)
  | [], [] => []
  | [], line => [line.reverse]
  | '\n' :: rest, '\r' :: line => line.reverse :: linesFrom rest []
  | '\n' :: rest, line => line.reverse :: linesFrom rest []
  | c :: rest, line => linesFrom rest (c :: line)

def lines (cs : List Char) : List (List Char) := linesFrom cs []

end TunnelClient.Text
