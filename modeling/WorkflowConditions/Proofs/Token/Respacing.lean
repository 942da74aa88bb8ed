import Mathlib.Data.List.Forall2
import Mathlib.Data.List.Induction
import WorkflowConditions.Proofs.Token.Seam

namespace WorkflowConditions

/-!
# White space that tokens do not depend on

White space at the beginning of a text and behind a connective separates tokens, or
it stands inside a literal that has a parenthesis open.  Two texts that differ there
only have the same tokens, up to white space outside the quotations of a literal.
-/

namespace Text

/-- Whether a cell is left when white space outside quotations is deleted. -/
def Cell.isSolid (cell : Cell) : Bool :=
  cell.quoted || !cell.isSpace

/-- A text without the white space outside its quotations. -/
def solid (text : List Char) : List Cell :=
  (cells text).filter Cell.isSolid

theorem Cell.isSpace_of_not_isSolid
    {cell : Cell}
    (deleted : cell.isSolid = false) :
    cell.isSpace = true := by
  simpa using (Bool.or_eq_false_iff.mp deleted).2

theorem Cell.isSolid_of_space
    {cell : Cell}
    (space : cell.isSpace = true)
    (unquoted : cell.quoted = false) :
    cell.isSolid = false := by
  simp [isSolid, space, unquoted]

theorem char_mem_of_mem_cellsFrom
    {quotation : Quotation}
    {text : List Char}
    {cell : Cell}
    (member : cell ∈ cellsFrom quotation text) :
    cell.char ∈ text := by
  have mapped : cell.char ∈ Cell.chars (cellsFrom quotation text) :=
    List.mem_map_of_mem member
  rwa [chars_cellsFrom] at mapped

/-- Deleting members of a class does not interfere with trimming the class. -/
theorem trimBy_filter
    {dropped kept : α → Bool}
    (covers : ∀ item, kept item = false → dropped item = true)
    (items : List α) :
    trimBy dropped (items.filter kept) = (trimBy dropped items).filter kept := by
  have front
      (items : List α) :
      (items.filter kept).dropWhile dropped =
        (items.dropWhile dropped).filter kept := by
    induction items with
    | nil =>
        rfl
    | cons head rest inductionHypothesis =>
        cases isKept : kept head with
        | false =>
            rw [List.filter_cons_of_neg (by simp [isKept]),
              List.dropWhile_cons_of_pos (covers head isKept)]
            exact inductionHypothesis
        | true =>
            rw [List.filter_cons_of_pos isKept]
            cases isDropped : dropped head with
            | false =>
                rw [List.dropWhile_cons_of_neg (by simp [isDropped]),
                  List.dropWhile_cons_of_neg (by simp [isDropped]),
                  List.filter_cons_of_pos isKept]
            | true =>
                rw [List.dropWhile_cons_of_pos isDropped,
                  List.dropWhile_cons_of_pos isDropped]
                exact inductionHypothesis
  rw [trimBy, front, ← List.filter_reverse, front, ← List.filter_reverse, trimBy]

/-- A trimmed text has the trimmed cells. -/
theorem cells_trimChars
    {c : Char}
    (rest : List Char)
    (visible : isSpace c = false) :
    cells (trimChars (c :: rest)) = trimBy Cell.isSpace (cells (c :: rest)) := by
  obtain ⟨back, whole, blank⟩ := exists_trimBy_append rest visible
  obtain ⟨later, shape⟩ := exists_trimBy_eq_cons rest visible
  have firstKept :
      ∀ cell ∈ (cells (trimChars (c :: rest))).head?, cell.isSpace = false := by
    rw [trimChars, shape]
    simpa [cells, cellsFrom, Cell.isSpace] using visible
  have lastKept :
      ∀ cell ∈ (cells (trimChars (c :: rest))).getLast?,
        cell.isSpace = false := by
    intro cell last
    apply getLast?_trimBy isSpace (c :: rest) cell.char
    rw [← trimChars, ← chars_cellsFrom .outside (trimChars (c :: rest)), Cell.chars,
      List.getLast?_map]
    exact Option.mem_map_of_mem Cell.char last
  have backSpaces :
      ∀ cell ∈ cellsFrom (Quotation.outside.after (trimChars (c :: rest))) back,
        cell.isSpace = true :=
    fun cell member => blank cell.char (char_mem_of_mem_cellsFrom member)
  calc
    cells (trimChars (c :: rest)) =
        trimBy Cell.isSpace (cells (trimChars (c :: rest))) :=
      (trimBy_eq_self firstKept lastKept).symm
    _ = trimBy Cell.isSpace (cells (trimChars (c :: rest) ++ back)) := by
      rw [cells_append, trimBy_append_of_all backSpaces]
    _ = trimBy Cell.isSpace (cells (c :: rest)) := by
      rw [trimChars, ← whole]

/-- Trimming and leaving out unquoted white space can be exchanged. -/
theorem solid_trimChars
    {c : Char}
    (rest : List Char)
    (visible : isSpace c = false) :
    solid (trimChars (c :: rest)) = trimBy Cell.isSpace (solid (c :: rest)) := by
  rw [solid, cells_trimChars rest visible, solid,
    trimBy_filter (fun _ => Cell.isSpace_of_not_isSolid)]

end Text

namespace Token

open Text (Cell Quotation cells cellsFrom isSpace isQuotationMark solid)

/-- A connective is one of two plain characters, written twice. -/
theorem exists_plain_of_connective?
    {left right : Cell}
    (joins : (connective? [left, right]).isSome = true) :
    ∃ c, (c = '&' ∨ c = '|') ∧ left = .plain c ∧ right = .plain c := by
  simp only [connective?] at joins
  split at joins
  case isTrue both =>
    exact ⟨'&', .inl rfl, both⟩
  case isFalse =>
    split at joins
    case isTrue both =>
      exact ⟨'|', .inr rfl, both⟩
    case isFalse =>
      cases joins

/--
Two texts that differ only in white space behind connectives.  The flag tells that
white space may differ right here.
-/
inductive Respaced : Bool → List Cell → List Cell → Prop where
  | nil
      {fresh : Bool} :
      Respaced fresh [] []
  | keep
      {fresh : Bool}
      {cell : Cell}
      {first second : List Cell}
      (alone : connective? (cell :: first) = none)
      (later : Respaced false first second) :
      Respaced fresh (cell :: first) (cell :: second)
  | connective
      {fresh : Bool}
      {left right : Cell}
      {first second : List Cell}
      (joins : (connective? [left, right]).isSome = true)
      (later : Respaced true first second) :
      Respaced fresh (left :: right :: first) (left :: right :: second)
  | skipFirst
      {cell : Cell}
      {first second : List Cell}
      (space : cell.isSpace = true)
      (unquoted : cell.quoted = false)
      (later : Respaced true first second) :
      Respaced true (cell :: first) second
  | skipSecond
      {cell : Cell}
      {first second : List Cell}
      (space : cell.isSpace = true)
      (unquoted : cell.quoted = false)
      (later : Respaced true first second) :
      Respaced true first (cell :: second)

namespace Respaced

variable
  {fresh : Bool}
  {first second : List Cell}

/-- A text has its own white space. -/
theorem refl
    (fresh : Bool)
    (text : List Cell) :
    Respaced fresh text text := by
  induction text using List.twoStepInduction generalizing fresh with
  | nil =>
      exact .nil
  | singleton cell =>
      exact .keep rfl .nil
  | cons_cons left right rest afterBoth afterLeft =>
      cases found : connective? (left :: right :: rest) with
      | none =>
          exact .keep found (afterLeft right false)
      | some kind =>
          exact .connective (Option.isSome_iff_exists.mpr ⟨kind, found⟩)
            (afterBoth true)

/-- Texts that agree up to white space may be read where white space does not count. -/
theorem toFresh
    (respaced : Respaced false first second) :
    Respaced true first second := by
  cases respaced with
  | nil =>
      exact .nil
  | keep alone later =>
      exact .keep alone later
  | connective joins later =>
      exact .connective joins later

/-- Where white space counts both texts begin with the same cell. -/
theorem head?_eq
    (respaced : Respaced false first second) :
    first.head? = second.head? := by
  cases respaced <;>
    rfl

/-! ## The lexeme at the beginning -/

/-- Both texts complete the same connectives. -/
theorem connective?_eq
    (respaced : Respaced false first second)
    (cell : Cell) :
    connective? (cell :: first) = connective? (cell :: second) := by
  have sameHead := respaced.head?_eq
  cases first <;>
    cases second <;>
    simp_all [connective?]

/-- Both texts complete the same negations. -/
theorem startsNegation_eq
    (respaced : Respaced false first second)
    (cell : Cell) :
    startsNegation (cell :: first) = startsNegation (cell :: second) := by
  have sameHead := respaced.head?_eq
  cases first <;>
    cases second <;>
    simp_all [startsNegation]

theorem startsOperator_eq
    (respaced : Respaced false first second)
    (cell : Cell) :
    startsOperator (cell :: first) = startsOperator (cell :: second) := by
  rw [startsOperator, startsOperator, respaced.connective?_eq cell,
    respaced.startsNegation_eq cell]

end Respaced

/-! ## White space in a literal -/

/-- White space is no visible character. -/
theorem ne_plain_of_space
    {cell : Cell}
    (space : cell.isSpace = true)
    {c : Char}
    (visible : isSpace c = false) :
    cell ≠ .plain c := by
  rintro rfl
  rw [show isSpace c = true from space] at visible
  cases visible

/-- White space begins no operator. -/
theorem startsOperator_space
    {cell : Cell}
    (space : cell.isSpace = true)
    (rest : List Cell) :
    startsOperator (cell :: rest) = false := by
  rw [Bool.eq_false_iff]
  intro operator
  obtain ⟨c, isPlain, rfl | rfl | rfl⟩ := exists_plain_of_startsOperator operator
  · exact ne_plain_of_space space (by decide) isPlain
  · exact ne_plain_of_space space (by decide) isPlain
  · exact ne_plain_of_space space (by decide) isPlain

theorem connective?_space
    {cell : Cell}
    (space : cell.isSpace = true)
    (rest : List Cell) :
    connective? (cell :: rest) = none := by
  have noOperator := startsOperator_space space rest
  simpa using (Bool.or_eq_false_iff.mp noOperator).1

/-- A literal takes white space at any depth. -/
theorem literalLength_space
    (depth : Nat)
    {cell : Cell}
    (rest : List Cell)
    (space : cell.isSpace = true) :
    literalLength depth (cell :: rest) = 1 + literalLength depth rest :=
  literalLength_other
    (ne_plain_of_space space (by decide))
    (ne_plain_of_space space (by decide))
    (fun _ => startsOperator_space space rest)

/-- White space outside quotations adds nothing to what a literal takes. -/
theorem literal_skips_space
    (depth : Nat)
    {cell : Cell}
    (rest : List Cell)
    (space : cell.isSpace = true)
    (unquoted : cell.quoted = false) :
    (cell :: rest).drop (literalLength depth (cell :: rest)) =
        rest.drop (literalLength depth rest) ∧
      ((cell :: rest).take (literalLength depth (cell :: rest))).filter Cell.isSolid =
        (rest.take (literalLength depth rest)).filter Cell.isSolid := by
  have deleted := Cell.isSolid_of_space space unquoted
  rw [literalLength_space depth rest space, Nat.add_comm]
  constructor
  · rfl
  · rw [List.take_succ_cons, List.filter_cons_of_neg (by simp [deleted])]

/-- What a literal takes from two texts, and that the rests still agree. -/
structure SameLiteral
    (depth : Nat)
    (first second : List Cell) :
    Prop where
  rest :
    Respaced true
      (first.drop (literalLength depth first))
      (second.drop (literalLength depth second))
  taken :
    (first.take (literalLength depth first)).filter Cell.isSolid =
      (second.take (literalLength depth second)).filter Cell.isSolid

namespace SameLiteral

variable
  {depth inner : Nat}
  {cell : Cell}
  {first second : List Cell}

/-- A cell that both literals take keeps them alike. -/
theorem step
    (sameLiteral : SameLiteral inner first second)
    (firstGoesOn :
      literalLength depth (cell :: first) = 1 + literalLength inner first)
    (secondGoesOn :
      literalLength depth (cell :: second) = 1 + literalLength inner second) :
    SameLiteral depth (cell :: first) (cell :: second) := by
  constructor
  · rw [firstGoesOn, secondGoesOn, Nat.add_comm 1, Nat.add_comm 1]
    exact sameLiteral.rest
  · rw [firstGoesOn, secondGoesOn, Nat.add_comm 1, Nat.add_comm 1,
      List.take_succ_cons, List.take_succ_cons, List.filter_cons, List.filter_cons,
      sameLiteral.taken]

/-- Literals that both end here are alike. -/
theorem ends
    (respaced : Respaced true first second)
    (firstEnds : EndsLiteral first)
    (secondEnds : EndsLiteral second) :
    SameLiteral 0 first second := by
  constructor
  · rw [firstEnds.literalLength_eq_zero, secondEnds.literalLength_eq_zero]
    exact respaced
  · rw [firstEnds.literalLength_eq_zero, secondEnds.literalLength_eq_zero]
    rfl

/-- White space in the first literal only does not count. -/
theorem skipFirst
    (space : cell.isSpace = true)
    (unquoted : cell.quoted = false)
    (sameLiteral : SameLiteral depth first second) :
    SameLiteral depth (cell :: first) second := by
  obtain ⟨left, taken⟩ := literal_skips_space depth first space unquoted
  exact ⟨left ▸ sameLiteral.rest, taken.trans sameLiteral.taken⟩

/-- White space in the second literal only does not count. -/
theorem skipSecond
    (space : cell.isSpace = true)
    (unquoted : cell.quoted = false)
    (sameLiteral : SameLiteral depth first second) :
    SameLiteral depth first (cell :: second) := by
  obtain ⟨left, taken⟩ := literal_skips_space depth second space unquoted
  exact ⟨left ▸ sameLiteral.rest, sameLiteral.taken.trans taken.symm⟩

end SameLiteral

/-- A cell that begins no connective is taken by both literals or by none. -/
theorem sameLiteral_keep
    {depth : Nat}
    {cell : Cell}
    {first second : List Cell}
    (alone : connective? (cell :: first) = none)
    (later : Respaced false first second)
    (sameLiteral : ∀ inner, SameLiteral inner first second) :
    SameLiteral depth (cell :: first) (cell :: second) := by
  have sameOperator := later.startsOperator_eq cell
  rcases literal_step_cases depth cell first with
    rfl | ⟨rfl, outer, rfl⟩ | ⟨rfl, ends⟩ | ⟨notOpening, notClosing, noOperator⟩
  · exact (sameLiteral (depth + 1)).step
      (literalLength_opening depth first)
      (literalLength_opening depth second)
  · exact (sameLiteral outer).step
      (literalLength_closing outer first)
      (literalLength_closing outer second)
  · apply SameLiteral.ends (.keep alone later) ends
    rcases ends with closing | operator
    · exact .inl closing
    · exact .inr (sameOperator.symm.trans operator)
  · exact (sameLiteral depth).step
      (literalLength_other notOpening notClosing noOperator)
      (literalLength_other notOpening notClosing
        (fun atZero => sameOperator.symm.trans (noOperator atZero)))

/-- A connective ends both literals or is taken by both. -/
theorem sameLiteral_connective
    {depth : Nat}
    {left right : Cell}
    {first second : List Cell}
    (joins : (connective? [left, right]).isSome = true)
    (later : Respaced true first second)
    (sameLiteral : ∀ inner, SameLiteral inner first second) :
    SameLiteral depth (left :: right :: first) (left :: right :: second) := by
  cases depth with
  | zero =>
      have operator
          (rest : List Cell) :
          startsOperator (left :: right :: rest) = true :=
        Bool.or_eq_true_iff.mpr (.inl joins)
      exact .ends (.connective joins later)
        (.inr (operator first)) (.inr (operator second))
  | succ outer =>
      -- Inside parentheses of its own a literal takes both signs.
      obtain ⟨c, isConnective, rfl, rfl⟩ := exists_plain_of_connective? joins
      have notOpening : Cell.plain c ≠ .plain '(' := by
        rcases isConnective with rfl | rfl <;>
          decide
      have notClosing : Cell.plain c ≠ .plain ')' := by
        rcases isConnective with rfl | rfl <;>
          decide
      have goesOn
          (rest : List Cell) :
          literalLength (outer + 1) (.plain c :: rest) =
            1 + literalLength (outer + 1) rest :=
        literalLength_other notOpening notClosing (by simp)
      have afterLeft := (sameLiteral (outer + 1)).step (goesOn first) (goesOn second)
      exact afterLeft.step (goesOn _) (goesOn _)

/-- Texts that agree up to white space begin with like literals. -/
theorem Respaced.sameLiteral
    {fresh : Bool}
    {first second : List Cell}
    (respaced : Respaced fresh first second)
    (depth : Nat) :
    SameLiteral depth first second := by
  induction respaced generalizing depth with
  | nil =>
      exact ⟨.nil, rfl⟩
  | keep alone later inductionHypothesis =>
      exact sameLiteral_keep alone later inductionHypothesis
  | connective joins later inductionHypothesis =>
      exact sameLiteral_connective joins later inductionHypothesis
  | skipFirst space unquoted _ inductionHypothesis =>
      exact (inductionHypothesis depth).skipFirst space unquoted
  | skipSecond space unquoted _ inductionHypothesis =>
      exact (inductionHypothesis depth).skipSecond space unquoted

/-- A lexeme has the same kind in both texts and takes the same cells of them. -/
theorem Respaced.sameLexeme
    {cell : Cell}
    {first second : List Cell}
    (alone : connective? (cell :: first) = none)
    (later : Respaced false first second) :
    (lexeme cell first).kind = (lexeme cell second).kind ∧
      Respaced true
        (first.drop (lexeme cell first).tail)
        (second.drop (lexeme cell second).tail) ∧
      (first.take (lexeme cell first).tail).filter Cell.isSolid =
        (second.take (lexeme cell second).tail).filter Cell.isSolid := by
  have secondAlone : connective? (cell :: second) = none :=
    (later.connective?_eq cell).symm.trans alone
  simp only [lexeme, alone, secondAlone, later.startsNegation_eq cell]
  split
  · exact ⟨rfl, later.toFresh, rfl⟩
  · split
    · exact ⟨rfl, later.toFresh, rfl⟩
    · split
      · exact ⟨rfl, later.toFresh, rfl⟩
      · have sameLiteral := later.sameLiteral 0
        exact ⟨rfl, sameLiteral.rest, sameLiteral.taken⟩

/-! ## Whole texts -/

/-- Tokens of one kind whose texts differ in white space outside quotations only. -/
structure Alike
    (first second : Token) :
    Prop where
  kind : first.kind = second.kind
  text : solid first.text.toList = solid second.text.toList

/-- A visible character begins like tokens in both texts. -/
theorem alike_visible
    {c : Char}
    {first second : List Char}
    (visible : isSpace c = false)
    (alone : connective? (cells (c :: first)) = none)
    (later :
      Respaced false
        (cellsFrom (Quotation.outside.next c) first)
        (cellsFrom (Quotation.outside.next c) second)) :
    Alike
        ⟨(leading c first).kind,
          String.ofList (Text.trimChars (c :: first.take (leading c first).tail)), 0⟩
        ⟨(leading c second).kind,
          String.ofList (Text.trimChars (c :: second.take (leading c second).tail)),
          0⟩ ∧
      Respaced true
        (cells (first.drop (leading c first).tail))
        (cells (second.drop (leading c second).tail)) := by
  obtain ⟨sameKind, rest, taken⟩ := Respaced.sameLexeme alone later
  have lead
      (text : List Char) :
      lexeme ⟨c, Quotation.outside.covers c⟩
          (cellsFrom (Quotation.outside.next c) text) =
        leading c text :=
    rfl
  rw [lead first, lead second] at sameKind rest taken
  rw [drop_leading, drop_leading] at rest
  rw [Text.take_cellsFrom, Text.take_cellsFrom] at taken
  refine ⟨⟨sameKind, ?_⟩, rest⟩
  simp only [String.toList_ofList]
  rw [Text.solid_trimChars _ visible, Text.solid_trimChars _ visible]
  simp only [solid, cells_cons, List.filter_cons, taken]

private theorem exists_of_cellsFrom_eq_cons
    {quotation : Quotation}
    {text : List Char}
    {cell : Cell}
    {later : List Cell}
    (shape : cellsFrom quotation text = cell :: later) :
    ∃ c rest,
      text = c :: rest ∧
        cell = ⟨c, quotation.covers c⟩ ∧
        later = cellsFrom (quotation.next c) rest := by
  cases text with
  | nil =>
      cases shape
  | cons c rest =>
      obtain ⟨rfl, rfl⟩ := List.cons.inj shape
      exact ⟨c, rest, rfl, rfl, rfl⟩

private theorem exists_of_cells_eq_space
    {text : List Char}
    {cell : Cell}
    {later : List Cell}
    (shape : cells text = cell :: later)
    (space : cell.isSpace = true) :
    ∃ c rest, isSpace c = true ∧ text = c :: rest ∧ later = cells rest := by
  obtain ⟨c, rest, rfl, rfl, rfl⟩ := exists_of_cellsFrom_eq_cons shape
  have unmarked := Text.isQuotationMark_of_isSpace space
  refine ⟨c, rest, space, rfl, ?_⟩
  rw [Quotation.next_outside unmarked]
  rfl

private theorem exists_of_cells_eq_connective
    {text : List Char}
    {c : Char}
    {later : List Cell}
    (isConnective : c = '&' ∨ c = '|')
    (shape : cells text = .plain c :: .plain c :: later) :
    ∃ rest, text = c :: c :: rest ∧ later = cells rest := by
  obtain ⟨d, afterFirst, rfl, firstCell, restShape⟩ :=
    exists_of_cellsFrom_eq_cons shape
  obtain rfl : c = d := congrArg Cell.char firstCell
  obtain ⟨d, rest, rfl, secondCell, rfl⟩ :=
    exists_of_cellsFrom_eq_cons restShape.symm
  obtain rfl : c = d := congrArg Cell.char secondCell
  rcases isConnective with rfl | rfl
  · exact ⟨rest, rfl, rfl⟩
  · exact ⟨rest, rfl, rfl⟩

/-- How two texts can begin that differ in white space behind connectives only. -/
theorem Respaced.text_cases
    {first second : List Char}
    (respaced : Respaced true (cells first) (cells second)) :
    (first = [] ∧ second = []) ∨
      (∃ c rest,
        isSpace c = true ∧
          first = c :: rest ∧
          Respaced true (cells rest) (cells second)) ∨
      (∃ c rest,
        isSpace c = true ∧
          second = c :: rest ∧
          Respaced true (cells first) (cells rest)) ∨
      (∃ c firstRest secondRest,
        first = c :: firstRest ∧
          second = c :: secondRest ∧
          connective? (cells (c :: firstRest)) = none ∧
          Respaced false
            (cellsFrom (Quotation.outside.next c) firstRest)
            (cellsFrom (Quotation.outside.next c) secondRest)) ∨
      ∃ c firstRest secondRest,
        (c = '&' ∨ c = '|') ∧
          first = c :: c :: firstRest ∧
          second = c :: c :: secondRest ∧
          Respaced true (cells firstRest) (cells secondRest) := by
  generalize firstShape : cells first = firstCells at respaced
  generalize secondShape : cells second = secondCells at respaced
  cases respaced with
  | nil =>
      left
      exact ⟨by simpa using congrArg List.length firstShape,
        by simpa using congrArg List.length secondShape⟩
  | skipFirst space _ later =>
      right
      left
      obtain ⟨c, rest, space, rfl, rfl⟩ := exists_of_cells_eq_space firstShape space
      exact ⟨c, rest, space, rfl, later⟩
  | skipSecond space _ later =>
      right
      right
      left
      obtain ⟨c, rest, space, rfl, rfl⟩ := exists_of_cells_eq_space secondShape space
      exact ⟨c, rest, space, rfl, later⟩
  | keep alone later =>
      right
      right
      right
      left
      obtain ⟨c, firstRest, rfl, rfl, rfl⟩ := exists_of_cellsFrom_eq_cons firstShape
      obtain ⟨d, secondRest, rfl, sameCell, rfl⟩ :=
        exists_of_cellsFrom_eq_cons secondShape
      obtain rfl : c = d := congrArg Cell.char sameCell
      exact ⟨c, firstRest, secondRest, rfl, rfl, alone, later⟩
  | connective joins later =>
      right
      right
      right
      right
      obtain ⟨c, isConnective, rfl, rfl⟩ := exists_plain_of_connective? joins
      obtain ⟨firstRest, rfl, rfl⟩ :=
        exists_of_cells_eq_connective isConnective firstShape
      obtain ⟨secondRest, rfl, rfl⟩ :=
        exists_of_cells_eq_connective isConnective secondShape
      exact ⟨c, firstRest, secondRest, isConnective, rfl, rfl, later⟩

/-- Texts that agree up to white space outside quotations have like tokens. -/
theorem Respaced.alike
    {first second : List Char}
    (respaced : Respaced true (cells first) (cells second)) :
    List.Forall₂ Alike (bareTokens first) (bareTokens second) := by
  -- A token takes many cells at once, so the induction is on the lengths.
  induction size : first.length + second.length using Nat.strongRecOn
    generalizing first second with
  | ind size inductionHypothesis =>
      subst size
      rcases respaced.text_cases with
        ⟨rfl, rfl⟩ | ⟨c, rest, space, rfl, later⟩ | ⟨c, rest, space, rfl, later⟩ |
          ⟨c, firstRest, secondRest, rfl, rfl, alone, later⟩ |
          ⟨c, firstRest, secondRest, isConnective, rfl, rfl, later⟩
      · simp
      · rw [bareTokens_space rest space]
        exact inductionHypothesis _ (by simp) later rfl
      · rw [bareTokens_space rest space]
        exact inductionHypothesis _ (by simp) later rfl
      · cases visible : isSpace c with
        | true =>
            rw [bareTokens_space firstRest visible,
              bareTokens_space secondRest visible]
            rw [Quotation.next_outside (Text.isQuotationMark_of_isSpace visible)]
              at later
            refine inductionHypothesis _ ?_ later.toFresh rfl
            simp only [List.length_cons]
            omega
        | false =>
            obtain ⟨alike, rest⟩ := alike_visible visible alone later
            rw [bareTokens_visible firstRest visible,
              bareTokens_visible secondRest visible]
            refine .cons alike (inductionHypothesis _ ?_ rest rfl)
            simp only [List.length_drop, List.length_cons]
            omega
      · have shorter :
            firstRest.length + secondRest.length <
              (c :: c :: firstRest).length + (c :: c :: secondRest).length := by
          simp only [List.length_cons]
          omega
        have rest := inductionHypothesis _ shorter later rfl
        rcases isConnective with rfl | rfl
        · rw [bareTokens_and, bareTokens_and]
          exact .cons ⟨rfl, rfl⟩ rest
        · rw [bareTokens_or, bareTokens_or]
          exact .cons ⟨rfl, rfl⟩ rest

/-! ## White space at the end -/

/-- White space is a seam. -/
theorem seam_spaces
    {spaces : List Char}
    (blank : ∀ c ∈ spaces, isSpace c = true) :
    Seam spaces := by
  constructor
  · intro c first
    have space := blank c (List.mem_of_mem_head? first)
    refine ⟨?_, ?_, ?_⟩ <;>
      rintro rfl <;>
      revert space <;>
      decide
  · intro c member
    exact blank c (List.mem_of_mem_take member)

theorem literalLength_spaces
    (depth : Nat)
    {spaces : List Cell}
    (blank : ∀ cell ∈ spaces, cell.isSpace = true) :
    literalLength depth spaces = spaces.length := by
  induction spaces with
  | nil =>
      rfl
  | cons cell rest inductionHypothesis =>
      rw [literalLength_space depth rest (blank cell (by simp)),
        inductionHypothesis (fun item member => blank item (by simp [member])),
        List.length_cons, Nat.add_comm]

/-- A literal that reaches the end of a text takes the white space behind it too. -/
theorem ReachesEnd.append_spaces
    {c : Char}
    {rest spaces : List Char}
    (reaches : ReachesEnd c rest)
    (blank : ∀ c ∈ spaces, isSpace c = true) :
    ReachesEnd c (rest ++ spaces) := by
  have whole :
      literalLength 0 (cells (c :: rest)) = (cells (c :: rest)).length := by
    simpa using reaches.2
  have unfused := (seam_spaces blank).unfused_cellsFrom
  obtain ⟨inner, _, continued⟩ := literalLength_append_of_eq (unfused _) whole
  rw [literalLength_spaces inner
      (fun cell member => blank cell.char (Text.char_mem_of_mem_cellsFrom member)),
    ← Text.cells_append] at continued
  refine ⟨reaches.1, ?_⟩
  rw [← List.cons_append, continued, Text.length_cells, Text.length_cellsFrom,
    List.length_cons, List.length_append]
  omega

/-- White space at the end of a text belongs to no token. -/
theorem bareTokens_append_spaces
    (text : List Char)
    {spaces : List Char}
    (blank : ∀ c ∈ spaces, isSpace c = true) :
    bareTokens (text ++ spaces) = bareTokens text := by
  induction text using scan_induction with
  | nil =>
      have skipped := scanFrom_spaces 0 [] blank
      rw [List.append_nil, scanFrom_nil] at skipped
      rw [List.nil_append, bareTokens, skipped, List.map_nil, bareTokens_nil]
  | space c rest space inductionHypothesis =>
      rw [List.cons_append, bareTokens_space _ space, bareTokens_space _ space,
        inductionHypothesis]
  | token c rest visible inductionHypothesis =>
      rw [List.cons_append, bareTokens_visible _ visible,
        bareTokens_visible _ visible]
      by_cases reaches : ReachesEnd c rest
      · have trimmed :
            Text.trimChars (c :: (rest ++ spaces)) = Text.trimChars (c :: rest) := by
          rw [← List.cons_append]
          exact Text.trimBy_append_of_all blank
        rw [(reaches.append_spaces blank).leading_eq.1, reaches.leading_eq.1,
          List.take_length, List.take_length, List.drop_length, List.drop_length,
          trimmed]
      · have bound := leading_tail_le c rest
        rw [leading_append (seam_spaces blank) reaches,
          List.take_append_of_le_length bound,
          List.drop_append_of_le_length bound, inductionHypothesis]

end Token

end WorkflowConditions
