import ProblemLint.Pattern.Class

/-! Written patterns as they have been read, before flags are applied: their widths, and the patterns that they
stand for. -/

namespace ProblemLint

inductive PatternError where
  | nothingToRepeat
  | repeatedTwice
  | boundsReversed
  /-- A bound of a repetition is beyond `Pattern.mostRepetitions`. -/
  | boundTooLarge
  | unclosedGroup
  | unopenedGroup
  | unclosedClass
  | badRange
  | badEscape
  | badReference
  /-- A template names a group that the pattern does not have. -/
  | unknownGroup
  | badName
  | nameTwice
  | tooManyBranches
  | unclosedComment
  | unknownExtension
  | badFlag
  | lateFlags
  /-- Both alphabets are asked for at the start of a pattern. -/
  | mixedAlphabets
  /-- A look behind has no fixed width. -/
  | openWidth
  deriving DecidableEq, Repr

namespace Pattern

def mostRepetitions : Nat := 4294967295

/-- The least and the greatest number of characters that a pattern takes. -/
structure Width where
  least : Nat
  most : Nat
  deriving DecidableEq

namespace Width

/-- Widths are not told apart from here on. -/
def limit : Nat := 18446744073709551616

def of (least most : Nat) : Width := ⟨min least limit, min most limit⟩

def add (v w : Width) : Width := of (v.least + w.least) (v.most + w.most)

def either (v w : Width) : Width := ⟨min v.least w.least, max v.most w.most⟩

def times (w : Width) (least : Nat) (most : Option Nat) : Width :=
  of (w.least * least) (match most with
    | some n => w.most * n
    | none => if w.most == 0 then 0 else limit)

end Width

inductive Edge where
  | lineStart
  | lineEnd
  | start
  | theEnd
  | word
  | noWord
  deriving DecidableEq

inductive Greed where
  | longest
  | shortest
  /-- As often as possible, and no less later on. -/
  | firm
  deriving DecidableEq

inductive Written where
  | nothing
  | code (n : Nat)
  | oneOf (negated : Bool) (members : List Member)
  | any
  | edge (e : Edge)
  | seq (first second : Written)
  | alt (first second : Written)
  | repeated (least : Nat) (most : Option Nat) (greed : Greed) (body : Written)
  /-- A group, with a number if its text is kept, and with flags to turn on and off. -/
  | group (number : Option Nat) (on off : Flags) (body : Written)
  /-- The text of a group of a given width once more. -/
  | again (number : Nat) (width : Width)
  | look (isAhead positive : Bool) (body : Written)
  | only (body : Written)
  | ifKept (number : Nat) (yes no : Written)

namespace Written

def width : Written → Width
  | .nothing | .edge _ | .look _ _ _ => ⟨0, 0⟩
  | .code _ | .oneOf _ _ | .any => ⟨1, 1⟩
  | .seq a b => a.width.add b.width
  | .alt a b | .ifKept _ a b => a.width.either b.width
  | .repeated least most _ body => body.width.times least most
  | .group _ _ _ body | .only body => body.width
  | .again _ w => w

def edgePattern (f : Flags) : Edge → Pattern
  | .lineStart => if f.multiline then Pattern.lineStart else Pattern.start
  | .lineEnd => if f.multiline then Pattern.lineEnd else Pattern.finish
  | .start => Pattern.start
  | .theEnd => Pattern.theEnd
  | .word => edgeOf (Kind.word.holds f.ascii)
  | .noWord => noEdgeOf (Kind.word.holds f.ascii)

def meaning (f : Flags) : Written → Except PatternError Pattern
  | .nothing => .ok .nothing
  | .code n => .ok (.one (f.isCode n))
  | .oneOf negated [.code n] => .ok (.one fun c => f.isCode n c != negated)
  | .oneOf negated ms => .ok (.one (inClass f negated ms))
  | .any => .ok (.one fun c => f.dotAll || c != '\n')
  | .edge e => .ok (edgePattern f e)
  | .seq a b => do .ok (.seq (← a.meaning f) (← b.meaning f))
  | .alt a b => do .ok (.alt (← a.meaning f) (← b.meaning f))
  | .repeated least most greed body => do
    if f.plain then .error .badFlag
    let p ← body.meaning f
    .ok (match greed with
      | .longest => p.times least most true
      | .shortest => p.times least most false
      | .firm => p.timesOnly least most)
  | .group number on off body => do
    let p ← body.meaning (f.within on off)
    .ok (match number with
      | some n => .group n p
      | none => p)
  | .again n _ => .ok (.again n f.small)
  | .look true positive body => do .ok (.ahead positive (← body.meaning f))
  | .look false positive body => do
    let w := body.width
    if w.least != w.most || w.least > mostRepetitions then .error .openWidth
    .ok (.behind positive w.least (← body.meaning f))
  | .only body => do .ok (.only (← body.meaning f))
  | .ifKept n yes no => do .ok (.ifKept n (← yes.meaning f) (← no.meaning f))

def isEmpty : Written → Bool
  | .nothing => true
  | .seq a b => a.isEmpty && b.isEmpty
  | .group none on off body => on == {} && off == {} && body.isEmpty
  | _ => false

/-- The members of what takes one character: a class, or alternatives that are all classes. -/
def members? : Written → Option (List Member)
  | .code n => some [.code n]
  | .oneOf false ms => some ms
  | .alt a b => do some ((← a.members?) ++ (← b.members?))
  | .group none on off body => if on == {} && off == {} then body.members? else none
  | _ => none

def sharedClass? : Written → Option (Bool × List Member)
  | .oneOf negated ms => some (negated, ms)
  | .seq a b => if a.isEmpty then b.sharedClass? else a.sharedClass?
  | .alt a b => if a.sharedClass? == b.sharedClass? then a.sharedClass? else none
  | .group none on off body => if on == {} && off == {} then body.sharedClass? else none
  | _ => none

/-- The class that a pattern begins with, when case cannot matter to it. -/
def leadClass? (f : Flags) : Written → Option (Bool × List Member)
  | .oneOf negated ms => if ms.any (·.isCased f) then none else some (negated, ms)
  | .alt a b => do
    let merged := do some (false, (← a.members?) ++ (← b.members?))
    let (negated, ms) ← (if a.sharedClass? == b.sharedClass? then a.sharedClass? else none).or merged
    if ms.any (·.isCased f) then none else some (negated, ms)
  | .seq a b => if a.isEmpty then b.leadClass? f else a.leadClass? f
  | .group _ on off body => body.leadClass? (f.within on off)
  | _ => none

/-- The pattern to search for. A search passes over the places whose character is not in the class that the pattern
begins with, read in the alphabet of the whole pattern. -/
def searched (f : Flags) (w : Written) : Except PatternError Pattern := do
  let p ← w.meaning f
  match w.leadClass? f with
  | some (negated, ms) =>
    let taken := inClass { ascii := f.ascii } negated ms
    .ok (if ms.any Member.isKind then .seq (.here fun _ after => after.head?.any taken) p else p)
  | none => .ok p

end Written
end Pattern
end ProblemLint
