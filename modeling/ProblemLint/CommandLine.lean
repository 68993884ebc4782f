import ProblemLint.Issue

/-! Command lines. Options have a long name or a short one or both; a long name may be cut short as long as
no other option starts the same way, and a value may be glued to a short name or follow either name after an
equals sign. -/

namespace ProblemLint

inductive Effect where
  /-- Takes no value and sets this truth value. -/
  | turn (on : Bool)
  /-- Takes a value and keeps its text. -/
  | text
  | integer
  | oneOf (words : List String)
  /-- Takes a value; every one given is kept. -/
  | gather
  /-- Takes no value and asks for help. -/
  | help

structure Opt where
  names : List String
  key : String
  effect : Effect
  initial : Value := .null
  /-- Options, by their keys, that may not be given along with this one. -/
  rivals : List String := []
  /-- What the help calls the value. -/
  valueName : String := ""
  /-- What the help says about the option; nothing hides it there. -/
  about : Option String := none
  /-- The part of the help that lists the option. -/
  heading : String := "options"

namespace Opt

def takesValue (o : Opt) : Bool :=
  match o.effect with
  | .turn _ | .help => false
  | .text | .integer | .oneOf _ | .gather => true

def help : Opt :=
  { names := ["-h", "--help"], key := "help", effect := .help, about := some "show this help message and exit" }

end Opt

structure Operands where
  key : String
  about : String

structure CommandLine where
  about : String
  options : List Opt
  operands : Option Operands := none

inductive Refusal where
  | usage
  | help
  deriving DecidableEq, Repr

/-- A value that stands in the same argument as the name of its option. -/
inductive Glued where
  | none
  /-- Right after a short name. -/
  | joined (value : Text)
  /-- After an equals sign. -/
  | assigned (value : Text)

inductive Argument where
  | operand (t : Text)
  /-- Two dashes, after which everything is an operand. -/
  | dashes
  | option (o : Opt) (isShort : Bool) (value : Glued)
  | unknown

namespace CommandLine

def all (c : CommandLine) : List Opt := .help :: c.options

def named? (c : CommandLine) (name : Text) : Option Opt :=
  c.all.find? fun o => o.names.any (·.toList == name)

def isShortName (name : Text) : Bool := name.length == 2 && !Text.startsWith name "--"

/-- The options with a name that starts as given, once for each such name. -/
def startingWith (c : CommandLine) (lead : Text) : List Opt :=
  c.all.flatMap fun o => (o.names.filter (lead.isPrefixOf ·.toList)).map fun _ => o

/-- A dash followed by digits, with or without a point among or before them. -/
def isNegativeNumber (t : Text) : Bool :=
  match t with
  | '-' :: r =>
    match r.dropWhile Text.isDigit with
    | [] => !r.isEmpty
    | '.' :: places => !places.isEmpty && places.all Text.isDigit
    | _ => false
  | _ => false

/-- The form of an argument that is no name of an option as it stands. -/
def classifyOther (c : CommandLine) (t : Text) : Except Refusal Argument :=
  let (name, value) := match Text.splitFirst? '=' t with
    | some (name, value) => (name, Glued.assigned value)
    | none => (t, Glued.none)
  match value, c.named? name with
  | .assigned _, some o => .ok (.option o (isShortName name) value)
  | _, _ =>
    let found := if Text.startsWith t "--" then (c.startingWith name).map (Argument.option · false value)
      else (c.named? (t.take 2)).toList.map (Argument.option · true (.joined (t.drop 2)))
    match found with
    | [a] => .ok a
    | _ :: _ => .error .usage
    | [] => .ok (if isNegativeNumber t || t.contains ' ' then .operand t else .unknown)

def classify (c : CommandLine) (t : Text) : Except Refusal Argument :=
  if !Text.startsWith t "-" || t.length == 1 then .ok (.operand t)
  else
    match c.named? t with
    | some o => .ok (.option o (isShortName t) .none)
    | none => c.classifyOther t

def arguments (c : CommandLine) : List Text → Except Refusal (List Argument)
  | [] => .ok []
  | t :: rest =>
    if t == "--".toList then .ok (.dashes :: rest.map .operand)
    else do
      let a ← c.classify t
      .ok (a :: (← c.arguments rest))

/-- The options that one argument gives, each with its value if that is known. Short names of options without a value
may stand together; `false` says that one of them is not known. -/
def unfold (c : CommandLine) (o : Opt) (isShort : Bool) :
    Glued → Except Refusal (List (Opt × Option Text) × Bool)
  | .none => .ok ([(o, none)], true)
  | .assigned value => if o.takesValue then .ok ([(o, some value)], true) else .error .usage
  | .joined value =>
    if o.takesValue then .ok ([(o, some value)], true)
    else if !isShort then .error .usage
    else unfoldJoined o value
where
  /-- More short names after that of an option without a value. -/
  unfoldJoined (o : Opt) : Text → Except Refusal (List (Opt × Option Text) × Bool)
    | [] => .ok ([(o, none)], true)
    | letter :: rest =>
      if letter == '-' then .error .usage
      else
        match c.named? ['-', letter] with
        | none => .ok ([(o, none)], false)
        | some next =>
          if next.takesValue then
            let value := match rest with
              | [] => none
              | '=' :: value => some value
              | value => some value
            .ok ([(o, none), (next, value)], true)
          else if rest.head? == some '=' then .error .usage
          else (unfoldJoined next rest).map fun (given, known) => ((o, none) :: given, known)

structure State where
  values : Fields
  given : List String := []
  operands : List Text := []
  /-- No more operands are taken once an option has followed some. -/
  closed : Bool := false
  /-- Every argument so far has a meaning. -/
  understood : Bool := true

def readInteger (t : Text) : Except Refusal Value :=
  match Issue.readLine t with
  | .ok n => .ok (.int n)
  | .error _ => .error .usage

def value (s : State) (o : Opt) (t : Text) : Except Refusal Value :=
  match o.effect with
  | .integer => readInteger t
  | .oneOf words => if words.any (·.toList == t) then .ok (.str (String.ofList t)) else .error .usage
  | .gather =>
    .ok (.list ((((Fields.get? s.values o.key).bind Value.items?).getD []) ++ [.str (String.ofList t)]))
  | .text => .ok (.str (String.ofList t))
  | .turn on => .ok (.bool on)
  | .help => .error .help

def State.give (s : State) (o : Opt) (t : Text) : Except Refusal State := do
  let v ← value s o t
  if o.rivals.any s.given.contains then .error .usage
  else .ok { s with values := Fields.set s.values o.key v, given := o.key :: s.given }

def State.giveAll (s : State) : List (Opt × Option Text) → Except Refusal State
  | [] => .ok s
  | (o, t) :: rest => do (← s.give o (t.getD [])).giveAll rest

def needsValue (given : List (Opt × Option Text)) : Bool :=
  match given.getLast? with
  | some (o, none) => o.takesValue
  | _ => false

def supply (given : List (Opt × Option Text)) (t : Text) : List (Opt × Option Text) :=
  given.dropLast ++ (given.getLast?).toList.map fun (o, _) => (o, some t)

def readArguments (c : CommandLine) : State → List Argument → Except Refusal State
  | s, [] => .ok s
  | s, .operand t :: rest =>
    if c.operands.isNone || s.closed then c.readArguments { s with understood := false } rest
    else c.readArguments { s with operands := s.operands ++ [t] } rest
  | s, .dashes :: rest =>
    c.readArguments (if c.operands.isNone then { s with understood := false } else s) rest
  | s, .unknown :: rest => c.readArguments { s with understood := false, closed := !s.operands.isEmpty } rest
  | s, .option o isShort glued :: rest => do
    let (given, known) ← c.unfold o isShort glued
    let s := { s with closed := !s.operands.isEmpty, understood := s.understood && known }
    if needsValue given then
      match rest with
      | .operand t :: rest => c.readArguments (← s.giveAll (supply given t)) rest
      | _ => .error .usage
    else c.readArguments (← s.giveAll given) rest

/-- The fields that a command line sets; those not given have their initial values. -/
def read (c : CommandLine) (args : List Text) : Except Refusal Fields := do
  let arguments ← c.arguments args
  let s ← c.readArguments { values := c.options.map fun o => (o.key, o.initial) } arguments
  if !s.understood then .error .usage
  else
    match c.operands with
    | none => .ok s.values
    | some o =>
      if s.operands.isEmpty then .error .usage
      else .ok (Fields.set s.values o.key (.list (s.operands.map fun t => .str (String.ofList t))))

end CommandLine
end ProblemLint
