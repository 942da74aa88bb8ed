import WorkflowConditions.Settings.Yaml.Flow

namespace WorkflowConditions.Yaml

/-!
# Settings files

Settings files are written in a small part of YAML: mappings and lists by
indentation, values in brackets, plain and quoted scalars, and comments.  A text that
cannot be read is malformed, unless it has marks of other parts (tags, anchors and
references to them, long texts, keys with question marks, directives, tabs, escapes),
quotation marks or brackets that may close on a later line, or so many lists and mappings
that they may be nested too deeply: nothing is said of it.
-/

/-- Whether a document may hold a character. -/
def isAllowed (c : Char) : Bool :=
  let code := c.toNat
  c == '\t' || c == '\n' || c == '\r' || (0x20 ≤ code && code ≤ 0x7e) || code == 0x85 ||
    (0xa0 ≤ code && code ≤ 0xfffd) || 0x10000 ≤ code

/-- A document with line feeds for all its line ends. -/
def withLineFeeds : List Char → List Char
  | [] => []
  | '\r' :: '\n' :: rest => '\n' :: withLineFeeds rest
  | c :: rest =>
      let isEnd := c == '\r' || c == '\u0085' || c == '\u2028' || c == '\u2029'
      (if isEnd then '\n' else c) :: withLineFeeds rest

/-- A line that holds more than spaces and comments, with its number in the document. -/
structure Line where
  number : Nat
  indent : Nat
  text : List Char
  deriving Repr, DecidableEq

/-- The line of some text with its number, unless it holds nothing. -/
def line? (numbered : List Char × Nat) : Option Line :=
  let (text, number) := numbered
  let indent := (text.takeWhile (· == ' ')).length
  match trimSpaces text with
  | [] => none
  | '#' :: _ => none
  | content => some ⟨number, indent, content⟩

/-- Whether nothing but a gap is left of a text. -/
def isDone (text : List Char) : Bool :=
  (afterGap text).isEmpty

/-- Lines as one text, with an empty line for each one left out between them. -/
def joinLines : List Line → List Char
  | [] => []
  | [line] => line.text
  | line :: next :: rest =>
      line.text ++ List.replicate (next.number - line.number) '\n' ++ joinLines (next :: rest)

/-- The letters of a plain word up to a comment; a colon before a blank has no place in it, nor has
a tab or a line after the comment. -/
def letters? : List Char → Option (List Char)
  | [] => some []
  | c :: rest =>
      if c = '\t' then none
      else if c = ':' ∧ endsKey false rest then none
      else if c = ' ' ∧ rest.head? = some '#' then
        if (afterLine rest).isEmpty then some [] else none
      else (letters? rest).map (c :: ·)

/-- A value that stands on the line of its key, or on lines of its own without a key. -/
def inline? (text : List Char) : Option Node :=
  let content := afterGap text
  match content with
  | [] => some .blank
  | c :: _ =>
      if c = '\x22' ∨ c = '\x27' then
        match quotedOf? content with
        | some (found, rest) => if isDone rest then some found else none
        | none => none
      else if c = '[' ∨ c = '\x7b' then
        match flow? (3 * content.length + 3) content with
        | some (found, rest) => if isDone rest then some found else none
        | none => none
      else if startsWord false content then
        (letters? content).map wordOf
      else none

/-- The content of a list item, if a line starts one, as a line of its own. -/
def item? (line : Line) : Option Line :=
  match line.text with
  | ['-'] => some { line with indent := line.indent + 1, text := [] }
  | '-' :: ' ' :: rest =>
      let indent := line.indent + 2 + (rest.takeWhile (· == ' ')).length
      some { line with indent, text := trimSpaces rest }
  | _ => none

/-- A plain key and the text after its colon. -/
def plainKey? : List Char → Option (List Char × List Char)
  | [] => none
  | c :: rest =>
      if c = '\t' then none
      else if c = ':' ∧ endsKey false rest then some ([], rest)
      else if c = ' ' ∧ rest.head? = some '#' then none
      else (plainKey? rest).map fun (key, after) => (c :: key, after)

/-- The key of a mapping on a line and the text after its colon. -/
def key? (line : Line) : Option (Key × List Char) :=
  match quoted? line.text with
  | some (key, rest) =>
      match rest.dropWhile (· == ' ') with
      | ':' :: after => if endsKey false after then some (.quoted key, after) else none
      | _ => none
  | none =>
      if startsWord false line.text then
        (plainKey? line.text).map fun (key, after) => (.word (trimSpaces key), after)
      else none

/-- The lines that a value goes on over: for one in brackets those up to where it is complete,
however they are indented, and for others those that are indented deeper. -/
def continuation
    (indent : Nat)
    (first : Line)
    (lines : List Line) :
    List Line :=
  let deeper := lines.takeWhile (indent < ·.indent)
  match afterGap first.text with
  | c :: _ =>
      if c = '[' ∨ c = '\x7b' then
        let isComplete := fun used => (inline? (joinLines (first :: used))).isSome
        (((List.range (lines.length + 1)).map lines.take).find? isComplete).getD deeper
      else deeper
  | [] => deeper

/-- The lines below a key: those that are indented deeper, or else a list at the key's own
indentation. -/
def below
    (indent : Nat)
    (lines : List Line) :
    List Line :=
  match lines with
  | [] => []
  | first :: _ =>
      if first.indent = indent ∧ (item? first).isSome then
        lines.takeWhile fun line =>
          indent < line.indent || (line.indent == indent && (item? line).isSome)
      else lines.takeWhile (indent < ·.indent)

mutual

/-- The node of a block of lines. -/
def block? : (fuel : Nat) → List Line → Option Node
  | 0, _ => none
  | _ + 1, [] => some .blank
  | fuel + 1, first :: rest =>
      if (item? first).isSome then (items? fuel first.indent (first :: rest)).map .list
      else if (key? first).isSome then
        (entries? fuel first.indent (first :: rest)).map .mapping
      else inline? (joinLines (first :: rest))

/-- The items of a list whose dashes stand at an indentation. -/
def items? : (fuel indent : Nat) → List Line → Option (List Node)
  | 0, _, _ => none
  | _ + 1, _, [] => some []
  | fuel + 1, indent, line :: rest =>
      if line.indent ≠ indent then none
      else
        match item? line with
        | none => none
        | some content =>
            let used := continuation indent content rest
            let lines := if isDone content.text then used else content :: used
            match block? fuel lines with
            | none => none
            | some node => (items? fuel indent (rest.drop used.length)).map (node :: ·)

/-- The entries of a mapping whose keys stand at an indentation. -/
def entries? : (fuel indent : Nat) → List Line → Option (List (Key × Node))
  | 0, _, _ => none
  | _ + 1, _, [] => some []
  | fuel + 1, indent, line :: rest =>
      if line.indent ≠ indent then none
      else
        match key? line with
        | none => none
        | some (key, text) =>
            let first := { line with text }
            let isOpen := isDone text
            let used := if isOpen then below indent rest else continuation indent first rest
            let found :=
              if isOpen then block? fuel used
              else inline? (joinLines (first :: used))
            match found with
            | none => none
            | some node =>
                (entries? fuel indent (rest.drop used.length)).map ((key, node) :: ·)

end

/-- Whether a line starts a document, and what it holds beside the mark. -/
def documentStart? (line : Line) : Option (List Char) :=
  match line.indent, line.text with
  | 0, ['-', '-', '-'] => some []
  | 0, '-' :: '-' :: '-' :: ' ' :: rest => some (trimSpaces rest)
  | _, _ => none

/-- Whether a line ends a document. -/
def isDocumentEnd (line : Line) : Bool :=
  line.indent == 0 && line.text == ['.', '.', '.']

/-- The node of the only document of some lines, with the marks around it. -/
def document? (lines : List Line) : Option Node :=
  let content := lines.takeWhile (!isDocumentEnd ·)
  let after := lines.dropWhile (!isDocumentEnd ·)
  let size := content.foldl (fun total line => total + line.text.length + 1) 0
  let fuel := 2 * size + 2
  if !after.all isDocumentEnd then none
  else
    match content with
    | [] => some .blank
    | first :: rest =>
        if rest.any fun line => (documentStart? line).isSome then none
        else
          match documentStart? first with
          | none => block? fuel content
          | some text =>
              if isDone text then block? fuel rest
              else inline? (joinLines ({ first with text } :: rest))

/-- A document without the mark of its byte order. -/
def withoutByteOrder : List Char → List Char
  | '\ufeff' :: rest => rest
  | text => text

/-- Whether a character may be a mark of a part of YAML that is not read here. -/
def isUncoveredMark (c : Char) : Bool :=
  ['&', '*', '!', '|', '>', '?', '%', '\t', '\\'].contains c

/-- Whether a character may start a list, a mapping or an entry. -/
def isNestingMark (c : Char) : Bool :=
  ['[', '\x7b', '-', ':'].contains c

/-- Whether a text may have quotation marks or brackets that close on a later line. -/
def mayCloseLater (text : List Char) : Bool :=
  let isOpening := ['\x22', '\x27', '[', '\x7b'].contains
  (Text.trimBy Text.isSpace (text.dropWhile (!isOpening ·))).contains '\n'

/-- Why a text cannot be read. -/
def unreadProblem (text : List Char) : Problem :=
  if text.any isUncoveredMark || mayCloseLater text ||
      Node.mostLevels < text.countP isNestingMark then .uncovered
  else .malformed

/-- The value that a document holds. -/
def parse (document : String) : Except Problem Value :=
  let text := document.toList
  if !text.all isAllowed then .error .malformed
  else
    let lines := (Text.splitLines (withLineFeeds (withoutByteOrder text))).zipIdx
    match document? (lines.filterMap line?) with
    | none => .error (unreadProblem text)
    | some node => node.value

end WorkflowConditions.Yaml
