import ProblemLint.CommandLine.Help
import ProblemLint.File.Tree
import ProblemLint.Lint

/-! What surrounds a run: files, programs, settings, and what has been printed. A script is an action on it
that may fail; what was done before a failure stays done. -/

namespace ProblemLint

/-- What a program does when it runs: it may write a file, then writes to its two outputs and ends with a code. -/
structure Reply where
  stdout : Text := []
  stderr : Text := []
  code : Int := 0
  /-- The text that the program leaves in the file its last argument names. -/
  edit : Option Text := none

/-- A run of a program: its arguments and, when one of them is `-i`, the text of the file named next. -/
structure Run where
  args : List Text
  input : Option Text := none

structure Program where
  name : Text
  replies : List Reply
  runs : List Run := []

namespace Program

/-- A program with nothing left to reply ends with this code. -/
def exhausted : Reply := { code := 127 }

def next (p : Program) : Reply := (p.replies.drop p.runs.length).head?.getD exhausted

end Program

structure Host where
  tree : FileTree := {}
  programs : List Program := []
  settings : List (Text × Text) := []
  /-- The file for passing a text to a program, which lies outside the tree. -/
  scratch : Option Bytes := none
  printed : Text := []
  /-- What has been written beside the results, on the second output. -/
  noted : Text := []
  /-- The name by which the command was called. -/
  command : Text := []

inductive Failure where
  | file (e : FileError)
  | bytes (f : Utf8.Fault)
  | pattern (e : PatternError)
  /-- Something is not as the script needs it. -/
  | refused (message : Text)
  /-- A value cannot be read. -/
  | unreadable (message : Text)
  /-- A project file is malformed. -/
  | malformed
  /-- A value is no record. -/
  | noRecord
  /-- The run is over. -/
  | exit (code : Nat)

abbrev Script := ExceptT Failure (StateM Host)

namespace Host

def scratchPath : Text := "/tmp/scratch".toList

def bytes (h : Host) (path : Text) : Except FileError Bytes :=
  if path == scratchPath then
    match h.scratch with
    | some bs => .ok bs
    | none => .error .missing
  else h.tree.read path

def put (h : Host) (path : Text) (bs : Bytes) : Except FileError Host :=
  if path == scratchPath then .ok { h with scratch := some bs }
  else (h.tree.write path bs).map fun t => { h with tree := t }

def within (folder path : Text) : Text := if path.head? == some '/' then path else Path.join folder path

def programFolder : String := "bin"

def program? (h : Host) (folder name : Text) : Option Program :=
  if name.contains '/' then
    match h.tree.resolve (within folder name) with
    | .ok [top, file] =>
      if top == programFolder then h.programs.find? (·.name == file.toList) else none
    | _ => none
  else h.programs.find? (·.name == name)

/-- The text of the file that is named after the argument `-i`. -/
def inputOf (h : Host) (folder : Text) : List Text → Option Text
  | [] => none
  | a :: rest =>
    if a == "-i".toList then
      match rest with
      | [] => none
      | path :: _ =>
        match h.bytes (within folder path) with
        | .ok bs => some (Utf8.decodeLeniently bs)
        | .error _ => none
    else h.inputOf folder rest

def answer (h : Host) (folder : Text) (p : Program) (args : List Text) : Reply × Host :=
  let r := p.next
  let run : Run := ⟨args, h.inputOf folder args⟩
  let record := fun (q : Program) => if q.name == p.name then { q with runs := q.runs ++ [run] } else q
  let h := { h with programs := h.programs.map record }
  match r.edit, args.getLast? with
  | some text, some path =>
    match h.put (within folder path) (Utf8.encode text) with
    | .ok h => (r, h)
    | .error _ => (r, h)
  | _, _ => (r, h)

end Host

namespace Script

/-- The outcome of a script and what it leaves. -/
def outcome {α : Type} (s : Script α) (h : Host) : Except Failure α × Host := StateT.run (ExceptT.run s) h

def ofFile {α : Type} (e : Except FileError α) : Script α :=
  match e with
  | .ok a => pure a
  | .error e => throw (.file e)

def print (t : Text) : Script Unit := modify fun h => { h with printed := h.printed ++ t ++ ['\n'] }

/-- Writes a line to the second output. -/
def note (t : Text) : Script Unit := modify fun h => { h with noted := h.noted ++ t ++ ['\n'] }

def printAll (lines : List Text) : Script Unit :=
  match lines with
  | [] => pure ()
  | l :: ls => do
    print l
    printAll ls

def readBytes (path : Text) : Script Bytes := do ofFile ((← get).bytes path)

/-- The text of a file, with every line break a line feed. -/
def readText (path : Text) : Script Text := do
  match Utf8.readText (← readBytes path) with
  | .ok t => pure t
  | .error f => throw (.bytes f)

def writeBytes (path : Text) (bs : Bytes) : Script Unit := do
  set (← ofFile ((← get).put path bs))

def writeText (path : Text) (t : Text) : Script Unit := writeBytes path (Utf8.encode t)

def removeScratch : Script Unit := do
  if (← get).scratch.isNone then throw (.file .missing)
  modify fun h => { h with scratch := none }

/-- Adds to the end of a file, which is made if it is not there. -/
def appendText (path : Text) (t : Text) : Script Unit := do
  let old ← match (← get).bytes path with
    | .ok bs => pure bs
    | .error .missing => pure []
    | .error e => throw (.file e)
  writeBytes path (old ++ Utf8.encode t)

def isFile (path : Text) : Script Bool := do return (← get).tree.isFile path

def isFolder (path : Text) : Script Bool := do return (← get).tree.isFolder path

def isThere (path : Text) : Script Bool := do return (← get).tree.isThere path

def makeFolder (name : String) : Script Unit := do
  let h ← get
  if h.tree.hasFile [name] then throw (.file .alreadyThere)
  set { h with tree := h.tree.addFolder [name] }

def setting? (name : String) : Script (Option Text) := do
  return ((← get).settings.find? (·.1 == name.toList)).map (·.2)

def runIn (folder : Text) (command : List Text) : Script Reply := do
  let h ← get
  let p ← ofFile (h.tree.resolve folder)
  if !h.tree.hasFolder p then throw (.file (if h.tree.hasFile p then .notFolder else .missing))
  match command with
  | [] => throw (.file .missing)
  | name :: args =>
    match h.program? folder name with
    | none => throw (.file .missing)
    | some program =>
      let (r, h) := h.answer folder program args
      set h
      pure r

def run (command : List Text) : Script Reply := runIn ['.'] command

def options (c : CommandLine) (args : List Text) : Script Fields :=
  match c.read args with
  | .ok fields => pure fields
  | .error .usage => throw (.exit 2)
  | .error .help => do
    print (c.help (← get).command)
    throw (.exit 0)

def lintFile (s : Settings) (path : Text) : Script (List Issue) := do
  match lint s (some path) (← readText path) with
  | .ok issues => pure issues
  | .error e => throw (.pattern e)

end Script

namespace Reply

def outText (r : Reply) : Text := Text.universalNewlines r.stdout

def errText (r : Reply) : Text := Text.universalNewlines r.stderr

end Reply
end ProblemLint
