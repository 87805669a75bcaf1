/-!
# Blanks

The characters with the White_Space property, and texts without blanks at their ends.
-/

namespace PubSubProvisioning.Text

/-- Whether a character is white space in the sense of Unicode. -/
def isBlank (c : Char) : Bool :=
  let code := c.toNat
  (0x9 ≤ code && code ≤ 0xD) || code == 0x20 || code == 0x85 || code == 0xA0 || code == 0x1680 ||
    (0x2000 ≤ code && code ≤ 0x200A) || code == 0x2028 || code == 0x2029 || code == 0x202F ||
    code == 0x205F || code == 0x3000

/-- A text without the characters at its end that satisfy `drop`. -/
def dropTrailing (drop : Char → Bool) (text : List Char) : List Char :=
  (text.reverse.dropWhile drop).reverse

/-- A text without the characters at either end that satisfy `drop`. -/
def trimBy (drop : Char → Bool) (text : List Char) : List Char :=
  dropTrailing drop (text.dropWhile drop)

/-- A string without the blanks at its ends. -/
def trim (text : String) : String :=
  String.ofList (trimBy isBlank text.toList)

/-- Whether a string holds nothing but blanks. -/
def allBlank (text : String) : Bool :=
  text.toList.all isBlank

theorem dropWhile_eq_nil (drop : Char → Bool) (text : List Char) :
    text.dropWhile drop = [] ↔ ∀ c ∈ text, drop c = true := by
  induction text with
  | nil => simp
  | cons c rest inductionHypothesis =>
      by_cases dropped : drop c = true
      · simp [dropped, inductionHypothesis]
      · simp [dropped]

theorem dropTrailing_eq_nil (drop : Char → Bool) (text : List Char) :
    dropTrailing drop text = [] ↔ ∀ c ∈ text, drop c = true := by
  rw [dropTrailing, List.reverse_eq_nil_iff, dropWhile_eq_nil]
  simp only [List.mem_reverse]

end PubSubProvisioning.Text
