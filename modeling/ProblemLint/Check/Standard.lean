import ProblemLint.Check.Structure
import ProblemLint.Check.Header
import ProblemLint.Check.Include
import ProblemLint.Check.Macros
import ProblemLint.Check.LoadMacros
import ProblemLint.Check.Seed
import ProblemLint.Check.Signature
import ProblemLint.Check.Inline
import ProblemLint.Check.Hazard
import ProblemLint.Check.Modes
import ProblemLint.Check.Blank
import ProblemLint.Check.Emphasis
import ProblemLint.Check.Line
import ProblemLint.Check.Legacy
import ProblemLint.Check.Html
import ProblemLint.Check.HtmlVariable
import ProblemLint.Check.Wrapper

/-! The checks that come with the linter, in the order in which they run. -/

namespace ProblemLint.Check

def standard : List Check :=
  [ blockMarkers, heredocs, documentPairs, blockRules, headerTags, includeProblem, requiredMacros
  , loadMacros, macroRules, seedStability, seedVariation, functionSignatures, inlineMarkers
  , parseHazards, modesInInline, modesTexPayload, modesHtmlPlainText, inlineSyntax, inlineBraces
  , blanks, underscoreEmphasis, brackets, blankAssignments, lineLength, blobPayloads, labelDots
  , answerStyle, textBlocks, htmlInText, hardSpaces, garbledText, texColors, htmlPolicy
  , forbiddenTags, divTags, spanInterpolation, htmlPassthrough, wrapperInString, styleStringQuotes
  , tagWrapperTex, answerRule, breakVariable, modesHtmlEscape, oldAnswerCheckers
  , solutionHintMacros ]

def ofId? (id : String) : Option Check := standard.find? (·.id == id)

end ProblemLint.Check
