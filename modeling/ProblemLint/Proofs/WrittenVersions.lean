import ProblemLint.Check.Macros
import ProblemLint.Proofs.Frame
import Mathlib.Data.Prod.Lex
import ProblemLint.Proofs.Numerals
import ProblemLint.Proofs.Trimming

/-! Versions as they are written. A version is read back from its two numbers with a point between them, whatever comes
behind that is no digit, and versions are ordered by their numbers and not by their digits. So a macro rule complains
about the target version exactly when the version that it needs is a later one. -/

namespace ProblemLint

open Text (IsGap isDigit isBlank)

open Text (numeral)

namespace Version

/-! ### Reading -/

/-- The digits of the minor number in what follows the major one; there may be none. -/
def minorDigits : Text → Text
  | '.' :: r => r.takeWhile isDigit
  | _ => []

theorem minorDigits_point (r : Text) : minorDigits ('.' :: r) = r.takeWhile isDigit := rfl

theorem minorDigits_eq_nil {r : Text} (h : ∀ c u, r = '.' :: c :: u → isDigit c = false) : minorDigits r = [] := by
  unfold minorDigits
  split
  · next u =>
    cases u with
    | nil => rfl
    | cons c u => exact List.takeWhile_cons_of_neg (by simpa using h c u rfl)
  · rfl

theorem readNumber_eq {ds : Text} (h : ds.length ≤ maxDigits) : readNumber ds = .ok (Text.number ds) :=
  if_neg (Nat.not_lt.2 h)

theorem read_digits {t ds rest : Text} (h : Text.trimStart t = ds ++ rest) (hds : ∀ c ∈ ds, isDigit c = true)
    (hne : ds ≠ []) (hrest : rest.head?.any isDigit = false) (hmajor : ds.length ≤ maxDigits)
    (hminor : (minorDigits rest).length ≤ maxDigits) :
    read t = .ok ⟨Text.number ds, Text.number (minorDigits rest)⟩ := by
  simp only [read, h, takeWhile_append_stop hds hrest, dropWhile_append_stop hds hrest, readNumber_eq hmajor]
  rw [if_neg (by simpa using hne)]
  split
  · next r =>
    rw [minorDigits_point] at hminor
    rw [minorDigits_point, readNumber_eq hminor]
    rfl
  · next hpoint =>
    have hnone : minorDigits rest = [] := minorDigits_eq_nil fun c u hrest => absurd hrest (hpoint (c :: u))
    rw [hnone]
    rfl

def Short (n : Nat) : Prop := (numeral n).length ≤ maxDigits

instance (n : Nat) : Decidable (Short n) := inferInstanceAs (Decidable ((numeral n).length ≤ maxDigits))

def written (v : Version) : Text := numeral v.major ++ '.' :: numeral v.minor

theorem read_written {v : Version} (hmajor : Short v.major) (hminor : Short v.minor) {lead rest : Text}
    (hlead : IsGap lead) (hrest : rest.head?.any isDigit = false) : read (lead ++ (v.written ++ rest)) = .ok v := by
  have hstart : Text.trimStart (lead ++ (v.written ++ rest)) =
      numeral v.major ++ '.' :: (numeral v.minor ++ rest) := by
    rw [written, List.append_assoc, List.cons_append, hlead.trimStart_append (Text.numeral_head? _ _)]
  have hdigits : minorDigits ('.' :: (numeral v.minor ++ rest)) = numeral v.minor :=
    takeWhile_append_stop (Text.numeral_digits _) hrest
  rw [read_digits hstart (Text.numeral_digits _) (Text.numeral_ne_nil _) rfl hmajor (by rwa [hdigits]),
    hdigits, Text.number_numeral, Text.number_numeral]

theorem read_major {n : Nat} (hn : Short n) {lead rest : Text} (hlead : IsGap lead)
    (hrest : rest.head?.any isDigit = false) (hpoint : ∀ c r, rest = '.' :: c :: r → isDigit c = false) :
    read (lead ++ (numeral n ++ rest)) = .ok ⟨n, 0⟩ := by
  have hstart := hlead.trimStart_append (Text.numeral_head? n rest)
  have hdigits := minorDigits_eq_nil hpoint
  rw [read_digits hstart (Text.numeral_digits _) (Text.numeral_ne_nil _) hrest hn (by rw [hdigits]; decide),
    hdigits, Text.number_numeral]
  rfl

theorem read_noNumber {t : Text} (h : (Text.trimStart t).head?.any isDigit = false) : read t = .error (.noNumber t) := by
  have hnone : (Text.trimStart t).takeWhile isDigit = [] := takeWhile_append_stop (w := []) (by simp) h
  simp only [read, hnone]
  rfl

theorem minorDigits_part (r : Text) : List.IsInfix (minorDigits r) r := by
  unfold minorDigits
  split
  · next u => exact (List.takeWhile_prefix _).isInfix.trans (List.suffix_cons _ _).isInfix
  · exact List.nil_infix

theorem minorDigits_digits (r : Text) : ∀ c ∈ minorDigits r, isDigit c = true := by
  unfold minorDigits
  split
  · exact fun c hc => List.mem_takeWhile_imp hc
  · simp

/-- When no run of digits is too long, a text is no version exactly when its first character that is not blank is
missing or no digit. -/
theorem read_error_iff {t : Text}
    (h : ∀ ds, List.IsInfix ds t → (∀ c ∈ ds, isDigit c = true) → ds.length ≤ maxDigits) :
    (∃ e, read t = .error e) ↔ ∀ c, List.find? (fun c => !isBlank c) t = some c → isDigit c = false := by
  have hfirst : List.find? (fun c => !isBlank c) t = (Text.trimStart t).head? := List.find?_not_eq_head?_dropWhile _ _
  rw [hfirst]
  constructor
  · rintro ⟨e, he⟩ c hc
    obtain ⟨r, hr⟩ := List.head?_eq_some_iff.1 hc
    by_contra hdigit
    rw [Bool.not_eq_false] at hdigit
    have hsplit := (List.takeWhile_append_dropWhile (p := isDigit) (l := Text.trimStart t)).symm
    have hpart {u : Text} (hu : List.IsInfix u (Text.trimStart t)) : List.IsInfix u t :=
      hu.trans (Text.trimStart_suffix t).isInfix
    have hmajor := h _ (hpart (List.takeWhile_prefix isDigit).isInfix) fun c hc => List.mem_takeWhile_imp hc
    have hminor := h _ (hpart ((minorDigits_part _).trans (List.dropWhile_suffix isDigit).isInfix))
      (minorDigits_digits _)
    rw [read_digits hsplit (fun c hc => List.mem_takeWhile_imp hc) (by simp [hr, hdigit]) (head?_dropWhile_any _ _)
      hmajor hminor] at he
    cases he
  · intro hhead
    refine ⟨_, read_noNumber ?_⟩
    cases hc : (Text.trimStart t).head? with
    | none => rfl
    | some c => exact hhead c hc

/-! ### Order -/

theorem lt_iff (v w : Version) : v.lt w = true ↔ toLex (v.major, v.minor) < toLex (w.major, w.minor) := by
  rw [Prod.Lex.toLex_lt_toLex, lt]
  simp

theorem normalize_written {v : Version} {lead rest : Text} (hlead : IsGap lead) (hrest : IsGap rest) :
    normalize (some (lead ++ (v.written ++ rest))) = v.written := by
  have htrimmed : Text.trim v.written = v.written := by
    refine Text.trim_eq_self (Text.numeral_head? _ _) ?_
    rw [written, List.append_cons]
    exact Text.numeral_getLast? _ _
  have hstart : Text.trimStart (lead ++ (v.written ++ rest)) = v.written ++ rest := by
    rw [written, List.append_assoc]
    exact hlead.trimStart_append (Text.numeral_head? _ _)
  have htrim : Text.trim (lead ++ (v.written ++ rest)) = v.written := by
    rw [Text.trim, hstart, Text.trimEnd_append_blanks hrest, Text.trimEnd_of_trim htrimmed]
  have hne : v.written ≠ [] := by simp [written]
  simp only [normalize, htrim]
  rw [if_neg (by simpa using hne)]

theorem read?_written {v : Version} (hmajor : Short v.major) (hminor : Short v.minor) : read? v.written = some v := by
  have hread := @read_written v hmajor hminor [] [] nofun rfl
  rw [List.nil_append, List.append_nil] at hread
  rw [read?, hread]
  rfl

end Version

/-! ### Rules -/

namespace Check

/-- The macro rules are applied: macros are loaded, or the program is a document of its own. -/
def AppliesMacroRules (d : Document) : Prop :=
  d.macrosLoaded ≠ [] ∨ (emptyCall "DOCUMENT").occursIn d.code = true

def macroRuleFinding (d : Document) (r : MacroRule) : Option Issue := (macroRuleIssue? d r).toOption.join

theorem run_macroRules {d : Document} (happlies : AppliesMacroRules d)
    (hpatterns : ∀ r ∈ d.macroRules, ∃ p, Pattern.read r.pattern.toList = .ok p) :
    macroRules.run d = .ok ⟨d.macroRules.filterMap (macroRuleFinding d), d⟩ := by
  have hfindings {rules : List MacroRule} (h : ∀ r ∈ rules, ∃ p, Pattern.read r.pattern.toList = .ok p) :
      rules.mapM (macroRuleIssue? d) = .ok (rules.map (macroRuleFinding d)) := by
    induction rules with
    | nil => rfl
    | cons r rules ih =>
      obtain ⟨⟨p, hp⟩, hrules⟩ := List.forall_mem_cons.1 h
      obtain ⟨i, hi⟩ := macroRuleIssue?_of_read d hp
      rw [List.mapM_cons, hi, ih hrules, List.map_cons, macroRuleFinding, hi]
      rfl
  have hcondition : (!d.macrosLoaded.isEmpty || (emptyCall "DOCUMENT").occursIn d.code) = true := by
    rw [Bool.or_eq_true, Bool.not_eq_true', List.isEmpty_eq_false_iff]
    exact happlies
  simp only [macroRules, attempting, hcondition, hfindings hpatterns, if_true, bind, Except.bind, Except.map,
    List.filterMap_map]
  rfl

def needsVersion (r : MacroRule) : String := (if r.label == "" then "Function" else r.label) ++ " requires PG "

def targetNote (target : Version) : String := " (target is PG " ++ String.ofList target.written ++ ")"

/-- The issue that the target version comes before the one that a rule needs. -/
def earlyTarget (r : MacroRule) (needed target : Version) : Issue :=
  .general .warning (needsVersion r ++ String.ofList needed.written ++ "+" ++ targetNote target)

/-- The issue that it comes after the last one that a rule allows. -/
def lateTarget (r : MacroRule) (target : Version) : Issue :=
  .general .warning (needsVersion r ++ r.maxVersion.getD "" ++ " or earlier" ++ targetNote target)

def neededFiles (r : MacroRule) : List String := r.requiredMacros.map fun m => String.ofList (Text.lower m.toList)

/-- The issue that no macro file of a rule is loaded. -/
def unloaded (r : MacroRule) : Issue :=
  .general .warning (r.label ++ " used without required macros: " ++ ", ".intercalate (neededFiles r))

theorem general_inj {severity : Severity} {m m' : String} (h : Issue.general severity m = Issue.general severity m') :
    m = m' := by
  simpa [Issue.general] using h

theorem earlyTarget_ne_lateTarget (r : MacroRule) (needed target : Version) :
    earlyTarget r needed target ≠ lateTarget r target := by
  intro h
  have hmessage := (String.append_left_inj _).1 (general_inj h)
  have hlast := congrArg (fun s => s.toList.getLast?) hmessage
  simp at hlast

theorem earlyTarget_ne_unloaded (r : MacroRule) (needed target : Version) :
    earlyTarget r needed target ≠ unloaded r := by
  intro h
  have hlists := congrArg String.toList (general_inj h)
  simp only [needsVersion, String.toList_append, List.append_assoc] at hlists
  by_cases hlabel : r.label = ""
  · simp [hlabel] at hlists
  · rw [if_neg (by simpa using hlabel)] at hlists
    have hrest := List.append_cancel_left hlists
    simp at hrest

/-- What a rule whose pattern occurs finds, when the target version can be read. -/
theorem macroRuleFinding_eq {d : Document} {r : MacroRule} {p : Pattern} {needed target : Version}
    (hp : Pattern.read r.pattern.toList = .ok p) (hoccurs : p.occursIn d.code = true)
    (hneeded : r.minVersion = some (String.ofList needed.written)) (hread : Version.read? needed.written = some needed)
    (htarget : Version.normalize d.version = target.written) (hread' : Version.read? target.written = some target) :
    macroRuleFinding d r =
      if target.lt needed then
        if r.label == "DropDown" && dropDownFallback.occursIn d.code then none else some (earlyTarget r needed target)
      else if (r.maxVersion.bind fun s => Version.read? s.toList).any (·.lt target) then some (lateTarget r target)
      else if (neededFiles r).any d.macrosLoaded.contains then none
      else some (unloaded r) := by
  simp only [macroRuleFinding, macroRuleIssue?, hp, hoccurs, htarget, hread', hneeded, hread, bind, Except.bind, pure,
    Except.pure, Option.bind_some, Option.any_some, String.toList_ofList, Option.getD_some]
  rw [if_neg (by decide)]
  split
  · split
    · rfl
    · rfl
  · split
    · rfl
    · unfold neededFiles
      split
      · rfl
      · rfl

/-- A rule that is used and needs a version complains about an earlier target, unless the program has a way to do
without the newer function. No other issue of the rule is mistaken for this one. -/
theorem macroRuleFinding_eq_early_iff {d : Document} {r : MacroRule} {p : Pattern} {needed target : Version}
    (hp : Pattern.read r.pattern.toList = .ok p) (hoccurs : p.occursIn d.code = true)
    (hneeded : r.minVersion = some (String.ofList needed.written)) (hread : Version.read? needed.written = some needed)
    (htarget : Version.normalize d.version = target.written) (hread' : Version.read? target.written = some target) :
    macroRuleFinding d r = some (earlyTarget r needed target) ↔
      toLex (target.major, target.minor) < toLex (needed.major, needed.minor) ∧
        ¬ (r.label = "DropDown" ∧ dropDownFallback.occursIn d.code = true) := by
  rw [macroRuleFinding_eq hp hoccurs hneeded hread htarget hread', ← Version.lt_iff]
  have hfallback : (r.label == "DropDown" && dropDownFallback.occursIn d.code) = true ↔
      r.label = "DropDown" ∧ dropDownFallback.occursIn d.code = true := by
    rw [Bool.and_eq_true, beq_iff_eq]
  rw [← hfallback]
  by_cases hlt : target.lt needed = true
  · rw [if_pos hlt, and_iff_right hlt]
    split
    · next h => exact iff_of_false nofun fun hnot => hnot h
    · next h => exact iff_of_true rfl h
  · rw [if_neg hlt]
    refine iff_of_false ?_ fun h => hlt h.1
    split
    · exact fun h => earlyTarget_ne_lateTarget r needed target (Option.some.inj h).symm
    · split
      · exact nofun
      · exact fun h => earlyTarget_ne_unloaded r needed target (Option.some.inj h).symm

open Version (Short)

/-- Versions are read as they are written: both numbers, or the major one alone, after white space and whatever comes
behind; and reading fails on nothing else but a text that does not start with a number. Hence a macro rule whose
pattern occurs reports an early target exactly when the two numbers of the target come before those that it needs. -/
theorem versions_read_and_compared :
    (∀ (a b : Nat) (lead rest : Text), Short a → Short b → IsGap lead → rest.head?.any isDigit = false →
      Version.read (lead ++ (numeral a ++ '.' :: numeral b ++ rest)) = .ok ⟨a, b⟩) ∧
    (∀ (a : Nat) (lead rest : Text), Short a → IsGap lead → rest.head?.any isDigit = false →
      (∀ c r, rest = '.' :: c :: r → isDigit c = false) → Version.read (lead ++ (numeral a ++ rest)) = .ok ⟨a, 0⟩) ∧
    (∀ t : Text, (∀ ds, List.IsInfix ds t → (∀ c ∈ ds, isDigit c = true) → ds.length ≤ Version.maxDigits) →
      ((∃ e, Version.read t = .error e) ↔
        ∀ c, List.find? (fun c => !isBlank c) t = some c → isDigit c = false)) ∧
    ∀ (d : Document) (target : Version) (lead rest : Text), AppliesMacroRules d →
      (∀ r ∈ d.macroRules, ∃ p, Pattern.read r.pattern.toList = .ok p) →
      d.version = some (lead ++ (target.written ++ rest)) → IsGap lead → IsGap rest →
      Short target.major → Short target.minor →
      macroRules.run d = .ok ⟨d.macroRules.filterMap (macroRuleFinding d), d⟩ ∧
      ∀ r ∈ d.macroRules, ∀ (p : Pattern) (needed : Version), Pattern.read r.pattern.toList = .ok p →
        p.occursIn d.code = true → r.minVersion = some (String.ofList needed.written) →
        Short needed.major → Short needed.minor →
        (macroRuleFinding d r = some (earlyTarget r needed target) ↔
          toLex (target.major, target.minor) < toLex (needed.major, needed.minor) ∧
            ¬ (r.label = "DropDown" ∧ dropDownFallback.occursIn d.code = true)) := by
  refine ⟨?_, ?_, ?_, ?_⟩
  · intro a b lead rest ha hb hlead hrest
    exact Version.read_written (v := ⟨a, b⟩) ha hb hlead hrest
  · intro a lead rest ha hlead hrest hpoint
    exact Version.read_major ha hlead hrest hpoint
  · intro t ht
    exact Version.read_error_iff ht
  · intro d target lead rest happlies hpatterns hversion hlead hrest hmajor hminor
    refine ⟨run_macroRules happlies hpatterns, ?_⟩
    intro r _ p needed hp hoccurs hneeded hmajor' hminor'
    have htarget : Version.normalize d.version = target.written := by rw [hversion, Version.normalize_written hlead hrest]
    exact macroRuleFinding_eq_early_iff hp hoccurs hneeded (Version.read?_written hmajor' hminor') htarget
      (Version.read?_written hmajor hminor)

/-- A rule for a function that came with version 2.18. -/
def checkboxRule : MacroRule := .since "2.18" "CheckboxList" "\\bCheckboxList\\s*\\(" ["parserCheckboxList.pl"]

/-- A document that uses the function and is meant for version 2.9. -/
def checkboxDocument : Document :=
  .ofText "DOCUMENT();\nCheckboxList(1);\n".toList none [] [checkboxRule] (some " 2.9".toList)

theorem versions_read_and_compared_checkbox :
    Version.read "\t2.9-rc".toList = .ok ⟨2, 9⟩ ∧ Version.read "3.x".toList = .ok ⟨3, 0⟩ ∧
      (∃ e, Version.read "v2".toList = .error e) ∧
      macroRuleFinding checkboxDocument checkboxRule = some (earlyTarget checkboxRule ⟨2, 18⟩ ⟨2, 9⟩) := by
  obtain ⟨hboth, hmajor, hfails, hcompared⟩ := versions_read_and_compared
  have hshort : Short 2 ∧ Short 3 ∧ Short 9 ∧ Short 18 := by decide
  have hpattern : (Pattern.read checkboxRule.pattern.toList).toOption.any (·.occursIn checkboxDocument.code) = true := by
    decide +kernel
  refine ⟨hboth 2 9 ['\t'] "-rc".toList hshort.1 hshort.2.2.1 (List.forall_mem_singleton.2 rfl) rfl, ?_, ?_, ?_⟩
  · exact hmajor 3 [] ".x".toList hshort.2.1 nofun (by decide) fun c r h => by cases h; decide
  · refine (hfails "v2".toList fun ds hds _ => hds.length_le.trans (by decide)).2 fun c h => ?_
    cases h
    decide
  · cases hp : Pattern.read checkboxRule.pattern.toList with
    | error e =>
      rw [hp] at hpattern
      cases hpattern
    | ok p =>
      rw [hp] at hpattern
      have hrule := (hcompared checkboxDocument ⟨2, 9⟩ [] [] (.inr (by decide +kernel))
        (List.forall_mem_singleton.2 ⟨p, hp⟩) rfl nofun nofun hshort.1 hshort.2.2.1).2 checkboxRule
          (List.mem_singleton.2 rfl) p ⟨2, 18⟩ hp hpattern rfl hshort.1 hshort.2.2.2
      exact hrule.2 ⟨by decide, by decide⟩

end Check
end ProblemLint
