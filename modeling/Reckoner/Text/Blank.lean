/-! Blank characters and their removal at both ends of a text. Two classes are in use: the
characters with the property White_Space, and those together with the four information
separators. -/

namespace Reckoner.Text

/-- The characters with the property White_Space. -/
def isWhiteSpace (c : Char) : Bool :=
  let n := c.toNat
  (9 ≤ n && n ≤ 13) || n == 0x20 || n == 0x85 || n == 0xA0 || n == 0x1680 ||
    (0x2000 ≤ n && n ≤ 0x200A) || n == 0x2028 || n == 0x2029 || n == 0x202F || n == 0x205F ||
    n == 0x3000

/-- White space and the information separators U+001C to U+001F. -/
def isBlank (c : Char) : Bool :=
  isWhiteSpace c || (0x1C ≤ c.toNat && c.toNat ≤ 0x1F)

/-- The blanks of the ASCII range. -/
def isAsciiBlank (c : Char) : Bool := c = ' ' || (9 ≤ c.toNat && c.toNat ≤ 13)

/-- Remove what satisfies `drop` from both ends. -/
def trimBy (drop : Char → Bool) (cs : List Char) : List Char :=
  ((cs.dropWhile drop).reverse.dropWhile drop).reverse

theorem trimBy_of_ends {drop : Char → Bool} {cs : List Char} (head : cs.head?.any drop = false)
    (last : cs.getLast?.any drop = false) : trimBy drop cs = cs := by
  have kept {ds : List Char} (first : ds.head?.any drop = false) : ds.dropWhile drop = ds := by
    cases ds with
    | nil => rfl
    | cons d ds =>
      rw [List.head?_cons, Option.any_some] at first
      rw [List.dropWhile_cons, first]
      rfl
  rw [trimBy, kept head, kept (by rwa [List.head?_reverse]), List.reverse_reverse]

def strip (text : String) : String := String.ofList (trimBy isBlank text.toList)

def trimWhiteSpace (text : String) : String := String.ofList (trimBy isWhiteSpace text.toList)

end Reckoner.Text
