import ProblemLint.Check

/-! Checks of single lines: their length, and text that should not stand in them. -/

namespace ProblemLint.Check

def longLine : Nat := 200

def veryLongLine : Nat := 400

def lengthIssues (n : Nat) (line : Text) : List Issue :=
  let size := line.length
  let tooLong := fun (limit : Nat) =>
    Issue.onLine .warning s!"Line length {size} exceeds {limit} characters" n
  if size ≤ longLine then []
  else if size ≤ veryLongLine then [tooLong longLine]
  else if line.any fun c => c == ' ' || c == '\t' then [tooLong veryLongLine]
  else
    [tooLong veryLongLine,
      .onLine .warning "Long line without whitespace suggests embedded blob payload" n]

def lineLength : Check :=
  .reporting "pgml_line_length" "Extreme line length" fun d =>
    (codeLines d.text).flatMap fun (n, l) => lengthIssues n l

def blob : Pattern :=
  .run (fun c => Text.isAsciiLetter c || Text.isAsciiDigit c || c == '+' || c == '/') 800 none true
    ++ .run (· == '=') 0 (some 2) true

def blobMarkerIssues (n : Nat) (line : Text) : List Issue :=
  let lower := Text.lower line
  (if Text.includes lower "ggbbase64" then
      [.onLine .warning "ggbbase64 payload marker detected; avoid embedded applet blobs" n]
    else [])
    ++ if Text.includes lower "base64" && Text.includes line "=>" then
      [.onLine .warning "base64 payload marker detected; avoid embedded blobs" n]
    else []

def blobPayloads : Check :=
  .reporting "pgml_blob_payloads" "Embedded blob payloads" fun d =>
    matchIssues d blob d.text .warning
        (fun _ => "Base64-like blob payload detected; consider removing embedded data")
      ++ (codeLines d.text).flatMap fun (n, l) => blobMarkerIssues n l

/-- A letter computed from a number, with a full stop after it. -/
def labelDot : Pattern :=
  let space := Pattern.blanks
  Pattern.text "chr" ++ space ++ Pattern.text "(" ++ space ++ Pattern.text "65" ++ space
    ++ Pattern.text "+" ++ space ++ Pattern.text "$" ++ Pattern.name ++ space ++ Pattern.text ")" ++ space
    ++ Pattern.text "." ++ space ++ Pattern.group 1 (Pattern.oneOf "'\"") ++ Pattern.text "." ++ space
    ++ Pattern.repeats 1

def lineIssues (lines : List (Nat × Text)) (test : Text → Bool) (message : String) : List Issue :=
  (lines.filter fun (_, l) => test l).map fun (n, _) => .onLine .warning message n

def labelDots : Check :=
  .reporting "pgml_label_dot" "PGML label dot list trap" fun d =>
    lineIssues (codeLines d.text) labelDot.occursIn
      ("Label built as A. (chr(65 + $i) . '. ') can trigger PGML list parsing; "
        ++ "use '*A.*' or 'A)' instead")

def isHardSpace (c : Char) : Bool := c.toNat == 0xA0 || c.toNat == 0x202F

def hardSpaces : Check :=
  .reporting "pgml_nbsp" "Non-breaking spaces" fun d =>
    lineIssues (numberedLines d.code) (·.any isHardSpace)
      "Non-breaking space detected; replace with a normal space to avoid layout surprises"

/-- The first sign in a line that its bytes were read in a wrong encoding. -/
def garbled? : Text → Option Text
  | [] => none
  | c :: r =>
    let n := c.toNat
    if n == 0xC2 || n == 0xC3 || n == 0xFFFD then some [c]
    else
      match r with
      | d :: _ =>
        if n == 0xE2 && 0x80 ≤ d.toNat && d.toNat ≤ 0x9F then some [c, d] else garbled? r
      | [] => none

def garbledText : Check :=
  .reporting "pgml_mojibake" "Mojibake/encoding glitches" fun d =>
    (numberedLines d.code).filterMap fun (n, l) => (garbled? l).map fun token =>
      .onLine .warning ("Possible mojibake sequence " ++ String.ofList (Text.quoted true token)
        ++ " detected; check for UTF-8/Latin-1 encoding mixups") n

def texColor : Pattern := Pattern.text "\\" ++ Pattern.words ["textcolor", "color"] ++ Pattern.wordEdge

def texColors : Check :=
  .reporting "pgml_tex_color" "TeX color commands" fun d =>
    lineIssues (numberedLines d.code) texColor.occursIn
      ("TeX color commands (\\color, \\textcolor) do not render reliably in PGML; "
        ++ "use PGML tag wrappers or HTML spans instead")

end ProblemLint.Check
