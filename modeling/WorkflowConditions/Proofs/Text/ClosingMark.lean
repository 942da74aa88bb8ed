import Mathlib.Algebra.Group.Nat.Even
import Mathlib.Order.Bounds.Basic
import WorkflowConditions.Proofs.Text.Balance

namespace WorkflowConditions.Text

/-!
# Where a quotation is closed

A quotation is closed by the first mark in it that is not escaped, and a mark is
escaped when an odd number of backslashes stands right before it.  The reader of a
quotation does not count: it remembers whether the last character was a backslash
that takes the next one along.  Parity and memory agree at every character up to the
closing mark, whatever the runs of backslashes, so the reader stops exactly there.
-/

/-- Number of backslashes at the end of a text. -/
def endingBackslashes (text : List Char) : Nat :=
  (text.reverse.takeWhile (· == '\\')).length

@[simp] theorem endingBackslashes_nil :
    endingBackslashes [] = 0 :=
  rfl

theorem endingBackslashes_concat_backslash (text : List Char) :
    endingBackslashes (text ++ ['\\']) = endingBackslashes text + 1 := by
  simp [endingBackslashes]

theorem endingBackslashes_concat
    (text : List Char)
    {c : Char}
    (other : c ≠ '\\') :
    endingBackslashes (text ++ [c]) = 0 := by
  simp [endingBackslashes, other]

/--
The mark at `start` is closed at `place`: the same character stands there, and the
backslashes right before it, back to `start`, are even in number.
-/
structure ClosesAt
    (text : String)
    (start place : Nat) :
    Prop where
  later : start < place
  sameMark : text.toList[place]? = text.toList[start]?
  unescaped : Even (endingBackslashes ((text.toList.take place).drop (start + 1)))

/-! ## The reader of a quotation -/

namespace Quotation

/-- Where the reader of an unclosed quotation stands after what it holds so far. -/
def standing
    (mark : Char)
    (held : List Char) :
    Quotation :=
  if Even (endingBackslashes held) then .inside mark else .escaped mark

/-- An unescaped mark closes the quotation. -/
theorem next_standing_of_closing
    {mark : Char}
    {held : List Char}
    (unescaped : Even (endingBackslashes held)) :
    (standing mark held).next mark = .outside := by
  simp [standing, unescaped, next]

/-- Any other character is held, and parity tells where the reader stands after it. -/
theorem next_standing_of_held
    {mark c : Char}
    {held : List Char}
    (unclosed : ¬(c = mark ∧ Even (endingBackslashes held))) :
    (standing mark held).next c = standing mark (held ++ [c]) := by
  by_cases even : Even (endingBackslashes held)
  · have notMark : c ≠ mark := fun same => unclosed ⟨same, even⟩
    by_cases backslash : c = '\\'
    · subst c
      have odd : ¬Even (endingBackslashes (held ++ ['\\'])) := by
        rw [endingBackslashes_concat_backslash, Nat.even_add_one]
        exact fun uneven => uneven even
      rw [standing, if_pos even, standing, if_neg odd, next, if_neg notMark, if_pos rfl]
    · have evenStill : Even (endingBackslashes (held ++ [c])) := by
        rw [endingBackslashes_concat held backslash]
        exact Even.zero
      rw [standing, if_pos even, standing, if_pos evenStill, next, if_neg notMark,
        if_neg backslash]
  · -- An escaped character is held whatever it is, a mark or a backslash included.
    have evenAgain : Even (endingBackslashes (held ++ [c])) := by
      by_cases backslash : c = '\\'
      · subst c
        rw [endingBackslashes_concat_backslash, Nat.even_add_one]
        exact even
      · rw [endingBackslashes_concat held backslash]
        exact Even.zero
    rw [standing, if_neg even, standing, if_pos evenAgain, next]

theorem standing_nil (mark : Char) :
    standing mark [] = .inside mark :=
  if_pos Even.zero

/-- Behind an opening mark the reader is inside until the closing one. -/
theorem standing_ne_outside
    (mark : Char)
    (held : List Char) :
    standing mark held ≠ .outside := by
  unfold standing
  split <;>
    simp

/-- A place in `rest` closes the quotation that holds `held` before it. -/
structure ClosesWithin
    (mark : Char)
    (held rest : List Char)
    (place : Nat) :
    Prop where
  isMark : rest[place]? = some mark
  unescaped : Even (endingBackslashes (held ++ rest.take place))

/-- A mark closes at once exactly behind an even number of backslashes. -/
theorem closesWithin_zero_iff
    {mark c : Char}
    {held rest : List Char} :
    ClosesWithin mark held (c :: rest) 0 ↔
      c = mark ∧ Even (endingBackslashes held) := by
  constructor <;>
    rintro ⟨isMark, unescaped⟩ <;>
    exact ⟨by simpa using isMark, by simpa using unescaped⟩

/-- A mark that closes later closes within the rest, with one more character held. -/
theorem closesWithin_succ_iff
    {mark c : Char}
    {held rest : List Char}
    {place : Nat} :
    ClosesWithin mark held (c :: rest) (place + 1) ↔
      ClosesWithin mark (held ++ [c]) rest place := by
  constructor <;>
    rintro ⟨isMark, unescaped⟩ <;>
    exact ⟨by simpa using isMark, by simpa using unescaped⟩

/-- The reader of an open quotation stops behind the first place that closes it. -/
theorem remaining_standing
    (mark : Char)
    (held rest : List Char) :
    (∃ place,
        IsLeast {place | ClosesWithin mark held rest place} place ∧
          (standing mark held).remaining rest = place + 1) ∨
      (∀ place, ¬ClosesWithin mark held rest place) ∧
        (standing mark held).remaining rest = rest.length := by
  induction rest generalizing held with
  | nil =>
      right
      refine ⟨?_, rfl⟩
      rintro place ⟨isMark, _⟩
      cases isMark
  | cons c rest inductionHypothesis =>
      by_cases closing : c = mark ∧ Even (endingBackslashes held)
      · left
        refine ⟨0, ⟨closesWithin_zero_iff.mpr closing, fun _ _ => Nat.zero_le _⟩, ?_⟩
        obtain ⟨rfl, unescaped⟩ := closing
        exact remaining_of_ended (next_standing_of_closing unescaped) rest
      · have isHeld := next_standing_of_held closing
        have continued : (standing mark held).next c ≠ .outside := by
          rw [isHeld]
          exact standing_ne_outside mark _
        have oneMore := remaining_of_continued continued rest
        rw [isHeld] at oneMore
        -- The first character does not close, so every closing place lies one further.
        have shifted
            {place : Nat}
            (closes : ClosesWithin mark held (c :: rest) place) :
            ∃ before, place = before + 1 ∧ ClosesWithin mark (held ++ [c]) rest before := by
          cases place with
          | zero =>
              exact (closing (closesWithin_zero_iff.mp closes)).elim
          | succ before =>
              exact ⟨before, rfl, closesWithin_succ_iff.mp closes⟩
        rcases inductionHypothesis (held ++ [c]) with
          ⟨place, ⟨closes, least⟩, stops⟩ | ⟨never, stops⟩
        · left
          refine ⟨place + 1, ⟨closesWithin_succ_iff.mpr closes, ?_⟩, ?_⟩
          · intro other otherCloses
            obtain ⟨before, rfl, closesBefore⟩ := shifted otherCloses
            exact Nat.succ_le_succ (least closesBefore)
          · rw [oneMore, stops]
        · right
          refine ⟨?_, ?_⟩
          · intro place closes
            obtain ⟨before, _, closesBefore⟩ := shifted closes
            exact never before closesBefore
          · rw [oneMore, stops, List.length_cons]

end Quotation

/-! ## Places in the whole text -/

/-- What closes the mark at `start` stands behind it and closes what the mark opened. -/
theorem closesAt_iff_closesWithin
    {text : String}
    {start place : Nat}
    {mark : Char}
    {rest : List Char}
    (opened : text.toList.drop start = mark :: rest) :
    ClosesAt text start place ↔
      ∃ within, place = start + 1 + within ∧ Quotation.ClosesWithin mark [] rest within := by
  have atStart : text.toList[start]? = some mark := by
    rw [← List.head?_drop, opened, List.head?_cons]
  have behind : text.toList.drop (start + 1) = rest := by
    rw [← List.tail_drop, opened, List.tail_cons]
  have letter (within : Nat) : text.toList[start + 1 + within]? = rest[within]? := by
    rw [← behind, List.getElem?_drop]
  have held (within : Nat) :
      (text.toList.take (start + 1 + within)).drop (start + 1) = rest.take within := by
    rw [List.drop_take, behind, Nat.add_sub_cancel_left]
  constructor
  · rintro ⟨later, sameMark, unescaped⟩
    obtain ⟨within, rfl⟩ := Nat.exists_eq_add_of_lt later
    rw [Nat.add_right_comm] at sameMark unescaped ⊢
    rw [letter, atStart] at sameMark
    rw [held] at unescaped
    exact ⟨within, rfl, sameMark, unescaped⟩
  · rintro ⟨within, rfl, isMark, unescaped⟩
    refine ⟨by omega, ?_, ?_⟩
    · rw [letter, isMark, atStart]
    · rw [held]
      exact unescaped

/--
The substring that a character opens ends right behind the first unescaped character
equal to it, and with the text when there is none.
-/
theorem quotationEnd_behind_first_closing
    {text : String}
    {start : Nat}
    (inText : start < text.length) :
    ∃ stop,
      quotationEnd? text start = some stop ∧
        start < stop ∧
        stop ≤ text.length ∧
        ((∃ place,
            IsLeast {place | ClosesAt text start place} place ∧ stop = place + 1) ∨
          (∀ place, ¬ClosesAt text start place) ∧ stop = text.length) := by
  obtain ⟨mark, rest, opened⟩ : ∃ mark rest, text.toList.drop start = mark :: rest := by
    rw [← String.length_toList] at inText
    exact ⟨_, _, List.drop_eq_getElem_cons inText⟩
  have size : text.length = start + 1 + rest.length := by
    have lengths := congrArg List.length opened
    rw [List.length_drop, List.length_cons, String.length_toList] at lengths
    omega
  have closes_iff
      (place : Nat) :
      ClosesAt text start place ↔
        ∃ within, place = start + 1 + within ∧ Quotation.ClosesWithin mark [] rest within :=
    closesAt_iff_closesWithin opened
  refine ⟨start + 1 + (Quotation.inside mark).remaining rest, ?_, by omega, ?_⟩
  · rw [quotationEnd?, opened]
  rcases Quotation.remaining_standing mark [] rest with
    ⟨within, ⟨closes, least⟩, stops⟩ | ⟨never, stops⟩
  · rw [Quotation.standing_nil] at stops
    have inRest : within < rest.length := (List.getElem?_eq_some_iff.mp closes.isMark).1
    refine ⟨by omega, .inl ⟨start + 1 + within, ⟨?_, ?_⟩, by omega⟩⟩
    · exact (closes_iff _).mpr ⟨within, rfl, closes⟩
    · intro place closesThere
      obtain ⟨other, rfl, otherCloses⟩ := (closes_iff place).mp closesThere
      exact Nat.add_le_add_left (least otherCloses) _
  · rw [Quotation.standing_nil] at stops
    refine ⟨by omega, .inr ⟨?_, by omega⟩⟩
    intro place closesThere
    obtain ⟨within, _, closes⟩ := (closes_iff place).mp closesThere
    exact never within closes

/-- Three backslashes escape a mark, and two do not. -/
theorem quotationEnd_behind_first_closing_of_backslashes :
    2 < "f('\\\\\\'\\\\')".length ∧
      quotationEnd? "f('\\\\\\'\\\\')" 2 = some 10 ∧
      IsLeast {place | ClosesAt "f('\\\\\\'\\\\')" 2 place} 9 := by
  have inText : 2 < "f('\\\\\\'\\\\')".length := by
    decide
  have computed : quotationEnd? "f('\\\\\\'\\\\')" 2 = some 10 := by
    decide
  refine ⟨inText, computed, ?_⟩
  obtain ⟨stop, ends, _, _, ⟨place, least, rfl⟩ | ⟨never, _⟩⟩ :=
    quotationEnd_behind_first_closing inText
  · obtain rfl : place = 9 := by
      simpa using computed.symm.trans ends
    exact least
  · exact (never 9 ⟨by decide, by decide, by decide⟩).elim

end WorkflowConditions.Text
