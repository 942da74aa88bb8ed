namespace WorkflowConditions.Text

/-!
# Parts and lines of a text

A text is cut at every occurrence of a character, so it has one part more than
occurrences.  The parts between line feeds are its lines.
-/

/-- Cut a text at every occurrence of a character. -/
def splitAtEach (mark : Char) : List Char → List (List Char)
  | [] => [[]]
  | c :: rest =>
      if c = mark then [] :: splitAtEach mark rest
      else
        match splitAtEach mark rest with
        | [] => [[c]]
        | first :: others => (c :: first) :: others

/-- Cut a text at its line feeds. -/
def splitLines (text : List Char) : List (List Char) :=
  splitAtEach '\n' text

end WorkflowConditions.Text
