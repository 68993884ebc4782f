import ProblemLint.Value.Reader
import ProblemLint.Value.Show
import ProblemLint.Text.Case

/-! Rules that a rule file can give: blocks whose ends must be equally frequent, and functions that need
macro files or a certain version. -/

namespace ProblemLint

/-- Occurrences of the two patterns must be equally frequent. -/
structure BlockRule where
  label : String
  startPattern : String
  endPattern : String

/-- Where the pattern occurs, the version must be in bounds and one of the macro files must be loaded. -/
structure MacroRule where
  label : String
  pattern : String
  minVersion : Option String
  maxVersion : Option String
  requiredMacros : List String

/-- A field of a rule as text; nothing when the field is missing or null. -/
def ruleField? (v : Value) (key : String) : Option String :=
  match v.get? key with
  | none | some .null => none
  | some x => some x.display

def ruleField (v : Value) (key : String) : String := ((v.get? key).map Value.display).getD ""

/-- The texts of a list; a text is the list of its characters. -/
def ruleItems : Value → List String
  | .list xs => xs.map Value.display
  | .str s => s.toList.map String.singleton
  | _ => []

namespace BlockRule

def ofValue (v : Value) : BlockRule :=
  ⟨ruleField v "label", ruleField v "start_pattern", ruleField v "end_pattern"⟩

def toValue (r : BlockRule) : Value :=
  .record [("label", .str r.label), ("start_pattern", .str r.startPattern),
    ("end_pattern", .str r.endPattern)]

def documentLabel : String := "DOCUMENT()/ENDDOCUMENT()"

def standard : List BlockRule :=
  [⟨documentLabel, "\\bDOCUMENT\\s*\\(\\s*\\)", "\\bENDDOCUMENT\\s*\\(\\s*\\)"⟩]

end BlockRule

namespace MacroRule

def ofValue (v : Value) : MacroRule :=
  ⟨ruleField v "label", ruleField v "pattern", ruleField? v "min_pg_version",
    ruleField? v "max_pg_version", ((v.get? "required_macros").map ruleItems).getD []⟩

def toValue (r : MacroRule) : Value :=
  .record ([("label", Value.str r.label), ("pattern", .str r.pattern),
      ("required_macros", .list (r.requiredMacros.map .str))]
    ++ (r.minVersion.map fun v => ("min_pg_version", Value.str v)).toList
    ++ (r.maxVersion.map fun v => ("max_pg_version", Value.str v)).toList)

def provided (label pattern : String) (macros : List String) : MacroRule :=
  ⟨label, pattern, none, none, macros⟩

def since (version label pattern : String) (macros : List String) : MacroRule :=
  ⟨label, pattern, some version, none, macros⟩

def standard : List MacroRule :=
  [ provided "MathObjects functions" "\\b(?:Context|Compute|Formula|Real)\\s*\\("
      ["MathObjects.pl", "PGML.pl"]
  , provided "RadioButtons" "\\bRadioButtons\\s*\\("
      ["parserRadioButtons.pl", "parserMultipleChoice.pl", "PGchoicemacros.pl"]
  , since "2.18" "CheckboxList" "\\bCheckboxList\\s*\\("
      ["parserCheckboxList.pl", "parserMultipleChoice.pl", "PGchoicemacros.pl"]
  , provided "PopUp" "\\bPopUp\\s*\\("
      ["parserPopUp.pl", "parserMultipleChoice.pl", "PGchoicemacros.pl"]
  , since "2.18" "DropDown" "\\bDropDown\\s*\\("
      ["parserPopUp.pl", "parserMultipleChoice.pl", "PGchoicemacros.pl"]
  , provided "MultiAnswer" "\\bMultiAnswer\\s*\\("
      ["parserMultiAnswer.pl"]
  , provided "OneOf" "\\bOneOf\\s*\\("
      ["parserOneOf.pl"]
  , provided "NchooseK" "\\bNchooseK\\s*\\("
      ["PGchoicemacros.pl"]
  , provided "FormulaUpToConstant" "\\bFormulaUpToConstant\\s*\\("
      ["parserFormulaUpToConstant.pl"]
  , provided "DataTable" "\\bDataTable\\s*\\("
      ["niceTables.pl"]
  , provided "LayoutTable" "\\bLayoutTable\\s*\\("
      ["niceTables.pl"]
  , provided "NumberWithUnits" "\\bNumberWithUnits\\s*\\("
      ["parserNumberWithUnits.pl", "contextUnits.pl"]
  , provided "Context('Fraction')" "\\bContext\\s*\\(\\s*['\\\"]Fraction['\\\"]\\s*\\)"
      ["contextFraction.pl"]
  , provided "DraggableSubsets" "\\bDraggableSubsets\\s*\\("
      ["draggableSubsets.pl"] ]

end MacroRule

/-- The two parts of a rule file as they stand there; a part that the file does not give is the standard
one. -/
structure RuleFile where
  blockRules : Option Value
  macroRules : Option Value

inductive RuleFileError where
  | malformed
  | notARecord
  deriving DecidableEq, Repr

def RuleFile.read (t : Text) : Except RuleFileError RuleFile :=
  match Value.read? t with
  | none => .error .malformed
  | some (.record fs) => .ok ⟨Fields.get? fs "block_rules", Fields.get? fs "macro_rules"⟩
  | some _ => .error .notARecord

end ProblemLint
