namespace WorkflowConditions.Text

/-!
# White space

The white space that separates tokens and that trimming removes, together with
the narrower class of blanks that line breaking steps over.
-/

/-- White space: the Unicode separators and the control characters that divide text. -/
def isSpace (c : Char) : Bool :=
  let code := c.toNat
  (0x09 ≤ code && code ≤ 0x0d) || (0x1c ≤ code && code ≤ 0x20) ||
    code == 0x85 || code == 0xa0 || code == 0x1680 ||
    (0x2000 ≤ code && code ≤ 0x200a) ||
    code == 0x2028 || code == 0x2029 || code == 0x202f || code == 0x205f || code == 0x3000

/-- A blank is a space or a tab. -/
def isBlank (c : Char) : Bool :=
  c == ' ' || c == '\t'

/-- Every blank is white space. -/
theorem isSpace_of_isBlank
    {c : Char}
    (blank : isBlank c = true) :
    isSpace c = true := by
  simp only [isBlank, Bool.or_eq_true, beq_iff_eq] at blank
  rcases blank with rfl | rfl <;> decide

/-- Remove the members of a class from the front and from the back of a list. -/
def trimBy
    (dropped : α → Bool)
    (items : List α) :
    List α :=
  ((items.dropWhile dropped).reverse.dropWhile dropped).reverse

/-- Characters without the white space around them. -/
def trimChars (text : List Char) : List Char :=
  trimBy isSpace text

/-- Text without the white space around it. -/
def trim (text : String) : String :=
  String.ofList (trimChars text.toList)

/-- Text is blank when it holds white space only. -/
def isBlankText (text : String) : Bool :=
  text.toList.all isSpace

end WorkflowConditions.Text
