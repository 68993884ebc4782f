import ProblemLint.Check

/-! The header of a problem file: the lines from the top that start with two number signs. They hold a
description, keywords, and the place of the problem in the library's order of subjects. -/

namespace ProblemLint.Check.Header

/-- The header lines of a text, numbered; blank lines between them do not end the header. -/
def linesOf (t : Text) : List (Nat × Text) :=
  ((numberedLines t).filter fun (_, l) => !(Text.trim l).isEmpty).takeWhile fun (_, l) =>
    Text.startsWith (Text.trimStart l) "##"

def isQuote (c : Char) : Bool := c == '\'' || c == '"'

/-- A value in parentheses, without the quotes around it; empty when there are no parentheses. -/
def tagValue (line : Text) : Text :=
  match Text.splitFirst? '(' line with
  | none => []
  | some (_, inner) =>
    match Text.splitLast? ')' inner with
    | none => []
    | some (value, _) =>
      let value := Text.trim value
      match value, value.getLast? with
      | q :: rest, some q' =>
        if isQuote q && isQuote q' && value.length ≥ 2 then Text.trim rest.dropLast else value
      | _, _ => value

def tagValue? (line : Text) (tag : String) : Option Text :=
  if Text.startsWith (Text.trimStart line) ("## " ++ tag) then some (tagValue line) else none

/-- The text in the parentheses of a keyword line, which must end the line. -/
def keywordText? (line : Text) : Option Text := do
  let t ← Text.after? "##".toList (Text.trim line)
  let t ← Text.after? "KEYWORDS".toList (Text.trimStart t)
  let t ← Text.after? ['('] (Text.trimStart t)
  if t.getLast? == some ')' then some (Text.trim t.dropLast) else none

def quotedAt? (_before : Option Char) : Text → Option (Text × Nat)
  | [] => none
  | q :: r =>
    let inner := r.takeWhile (!isQuote ·)
    if isQuote q && inner.length < r.length then some (inner, inner.length + 2) else none

/-- The keywords of a list: what stands in quotes, or else what stands between commas. -/
def keywordsOf (t : Text) : List Text :=
  let quoted := ((occurrences quotedAt? t).map fun (_, w) => Text.trim w).filter (!·.isEmpty)
  if quoted.isEmpty then
    ((Text.splitOn ',' t).map fun w =>
      Text.dropEndWhile isQuote ((Text.trim w).dropWhile isQuote)).filter (!·.isEmpty)
  else quoted

def repeatedFrom (seen : List Text) : List Text → List Text
  | [] => []
  | w :: ws =>
    let key := Text.lower w
    if seen.contains key then w :: repeatedFrom seen ws else repeatedFrom (key :: seen) ws

def repeatedKeywords (ws : List Text) : List String := sortedNames ((repeatedFrom [] ws).map String.ofList)

structure Tags where
  issues : List Issue := []
  subject : Option (Text × Nat) := none
  chapter : Option (Text × Nat) := none
  division : Option (Text × Nat) := none
  keywords : Option (Text × Nat) := none
  descriptionStart : Option Nat := none
  descriptionEnd : Option Nat := none
  /-- How many lines of the description are not blank. -/
  descriptionLines : Nat := 0
  inDescription : Bool := false

def isSmartPunctuation (c : Char) : Bool := "‘’“”–—".toList.contains c

def Tags.read (h : Tags) (entry : Nat × Text) : Tags :=
  let (n, line) := entry
  let t := Text.trimStart line
  let h :=
    if line.any isSmartPunctuation then
      { h with issues := h.issues ++
          [.onLine .warning "Header contains smart quotes or non-ASCII punctuation" n] }
    else h
  if Text.startsWith t "## DESCRIPTION" then
    { h with descriptionStart := some n, inDescription := true }
  else if Text.startsWith t "## ENDDESCRIPTION" then
    { h with descriptionEnd := some n, inDescription := false }
  else
    let h :=
      if h.inDescription && !Text.isAllBlank (t.drop 2) then
        { h with descriptionLines := h.descriptionLines + 1 }
      else h
    let h :=
      if Text.startsWith t "## KEYWORDS" then
        match keywordText? line with
        | none =>
          { h with issues := h.issues ++
              [.onLine .warning "KEYWORDS tag is malformed; expected KEYWORDS('k1','k2',...)" n] }
        | some w => if h.keywords.isNone then { h with keywords := some (w, n) } else h
      else h
    match tagValue? line "DBsubject", tagValue? line "DBchapter", tagValue? line "DBsection" with
    | some v, _, _ => { h with subject := some (v, n) }
    | none, some v, _ => { h with chapter := some (v, n) }
    | none, none, some v => { h with division := some (v, n) }
    | none, none, none => h

def longDescription : Nat := 4

def Tags.descriptionIssues (h : Tags) : List Issue :=
  match h.descriptionStart, h.descriptionEnd with
  | none, none => [.onLine .warning "Missing DESCRIPTION block in header" 1]
  | none, some e =>
    [.onLine .warning "ENDDESCRIPTION present without DESCRIPTION" e,
      .onLine .warning "Missing DESCRIPTION block in header" 1]
  | some s, none => [.onLine .warning "DESCRIPTION block missing ENDDESCRIPTION" s]
  | some s, some _ =>
    (if h.descriptionLines == 0 then [.onLine .warning "DESCRIPTION block is empty" s] else [])
      ++ if h.descriptionLines > longDescription then
        [.onLine .warning "DESCRIPTION block is long; keep to 1-4 sentences" s]
      else []

def keywordIssues (t : Text) (line : Nat) : List Issue :=
  let ws := keywordsOf t
  let note := fun message => [Issue.onLine .warning message line]
  if ws.isEmpty then note "KEYWORDS tag is empty"
  else
    (if ws.length < 3 then note "KEYWORDS should include at least 3 entries" else [])
      ++ (if ws.length > 10 then note "KEYWORDS should include at most 10 entries" else [])
      ++ match repeatedKeywords ws with
        | [] => []
        | names => note ("KEYWORDS contains duplicates: " ++ ", ".intercalate names)

def noisySubjects : List String :=
  ["", "WeBWorK", "ZZZ-Inserted Text", "Subject", "TBA", "History", "NECAP", "Middle School",
    "Elementary School", "Demos", "algeba"]

def subjectIssues : Option (Text × Nat) → List Issue
  | none => [.onLine .warning "Missing DBsubject tag in header" 1]
  | some (v, line) =>
    let s := String.ofList (Text.trim v)
    if noisySubjects.contains s then
      [.onLine .warning ("DBsubject '" ++ s ++ "' is a placeholder or noisy value") line]
    else []

def placeholder : Pattern := Pattern.wordsAnyCase ["refer to", "taxonomy"]

def divisionIssues (tag : String) : Option (Text × Nat) → List Issue
  | none => [.onLine .warning ("Missing " ++ tag ++ " tag in header") 1]
  | some (v, line) =>
    let t := Text.trim v
    (if t.isEmpty then [.onLine .warning (tag ++ " is empty") line] else [])
      ++ if placeholder.occursIn t then
        [.onLine .warning (tag ++ " uses placeholder reference text") line]
      else []

def issues (t : Text) : List Issue :=
  let h := (linesOf t).foldl Tags.read {}
  h.issues ++ h.descriptionIssues
    ++ (match h.keywords with
      | none => [.onLine .warning "Missing KEYWORDS tag in header" 1]
      | some (w, line) => keywordIssues w line)
    ++ subjectIssues h.subject ++ divisionIssues "DBchapter" h.chapter
    ++ divisionIssues "DBsection" h.division

end Header

def headerTags : Check := .reporting "pgml_header_tags" "PG header tag quality" (Header.issues ·.text)

end ProblemLint.Check
