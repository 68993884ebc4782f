import ProblemLint.Source.Quote
import ProblemLint.Text.Letter
import ProblemLint.Text.Lines

/-! Comments and heredocs of program text. A comment runs from a number sign in code to the end of its line.
A heredoc is introduced by `<<` in code, followed by its terminator; its body is every later line up to the
first that is the terminator but for blanks around it. -/

namespace ProblemLint

def commentFrom? (f : QuoteFlags) : Text → Option Nat
  | [] => none
  | c :: r =>
    match f.byMark? c with
    | some f => (commentFrom? f r).map (· + 1)
    | none => if f.outside && c == '#' then some 0 else (commentFrom? f r).map (· + 1)

def stripComment (line : Text) : Text :=
  match commentFrom? {} line with
  | none => line
  | some n => line.take n ++ (if Text.endsWithNewline line then ['\n'] else [])

/-- The terminator after `<<`: in quotes, or a word that starts with a letter or an underscore. -/
def terminatorAfter (t : Text) : Option Text :=
  let t := match t with
    | '-' :: r => r
    | _ => t
  match Text.trimStart t with
  | [] => none
  | c :: r =>
    if c == '\'' || c == '"' then if r.elem c then some (r.takeWhile (· != c)) else none
    else if Text.isLetter c || c == '_' then some (c :: r.takeWhile Text.isWord)
    else none

/-- The terminator of the first heredoc that a line introduces; if what follows the first `<<` in code is no
terminator, the line introduces none. -/
def terminatorFrom? (f : QuoteFlags) : Text → Option Text
  | [] => none
  | [_] => none
  | c :: d :: r =>
    match f.byMark? c with
    | some f => terminatorFrom? f (d :: r)
    | none => if f.outside && c == '<' && d == '<' then terminatorAfter r else terminatorFrom? f (d :: r)

def terminator? (line : Text) : Option Text := terminatorFrom? {} line

def heredocAfter (opened : Option Text) (line : Text) : Option Text :=
  match opened with
  | some t => if Text.trim line == t then none else some t
  | none => terminator? line

def stripCommentLines (opened : Option Text) : List Text → Text
  | [] => []
  | l :: ls =>
    (if opened.isSome then l else stripComment l) ++ stripCommentLines (heredocAfter opened l) ls

def stripComments (t : Text) : Text := stripCommentLines none (Text.lines t)

def stripHeredocLines (opened : Option Text) : List Text → Text
  | [] => []
  | l :: ls =>
    (if opened.isSome then if Text.endsWithNewline l then ['\n'] else [] else l)
      ++ stripHeredocLines (heredocAfter opened l) ls

/-- A program without the bodies of its heredocs, of which only the line feeds stay. -/
def stripHeredocs (t : Text) : Text := stripHeredocLines none (Text.lines t)

end ProblemLint
