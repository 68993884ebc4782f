import ProblemLint.Source.Block
import Mathlib.Tactic

/-! Lines that stand further down. The scans for blocks and for heredocs count positions and lines from where they
start; from a later start they find the same, with every position and every line number moved along. -/

namespace ProblemLint

/-- A line number, some lines further down. -/
def Value.moved (lines : Nat) : Value → Value
  | .int n => .int (n + lines)
  | v => v

/-- An issue some lines further down; one without a line stays as it is. -/
def Issue.moved (lines : Nat) (i : Issue) : Issue :=
  ⟨i.fields.map fun f => if f.1 == "line" then (f.1, f.2.moved lines) else f⟩

@[simp] theorem Issue.moved_onLine (lines : Nat) (severity : Severity) (message : String) (line : Nat) :
    (onLine severity message line).moved lines = onLine severity message (line + lines) := rfl

def Region.moved (chars lines : Nat) (r : Region) : Region :=
  ⟨r.start.map (· + chars), r.stop.map (· + chars), r.kind, r.line + lines⟩

@[simp] theorem Region.moved_ofBounds (chars lines start stop : Nat) (kind : String) (line : Nat) :
    (ofBounds start stop kind line).moved chars lines =
      ofBounds (start + chars) (stop + chars) kind (line + lines) := rfl

/-! ### Blocks -/

def OpenBlock.moved (chars lines : Nat) (b : OpenBlock) : OpenBlock := ⟨b.tag, b.start + chars, b.line + lines⟩

namespace BlockScan

variable (chars lines : Nat)

def moved (s : BlockScan) : BlockScan :=
  ⟨s.opened.map (OpenBlock.moved chars lines), s.issues.map (Issue.moved lines),
    s.regions.map (Region.moved chars lines)⟩

theorem report_moved (s : BlockScan) (i : Issue) :
    (s.moved chars lines).report (i.moved lines) = (s.report i).moved chars lines := by
  simp [report, moved]

theorem step_moved (s : BlockScan) (m : Marker) (line start stop : Nat) :
    (s.moved chars lines).step m (line + lines) (start + chars) (stop + chars) =
      (s.step m line start stop).moved chars lines := by
  have hany : (s.moved chars lines).opened.any (·.tag.isMarkup) = s.opened.any (·.tag.isMarkup) := by
    simp [moved, OpenBlock.moved, List.any_map, Function.comp_def]
  unfold step
  split
  · rw [hany]
    split <;> simp [moved, report, OpenBlock.moved]
  · cases hopened : s.opened with
    | nil =>
      have hopened' : (s.moved chars lines).opened = [] := by simp [moved, hopened]
      rw [hopened']
      exact report_moved chars lines s (.onLine .error _ line)
    | cons b outer =>
      have hopened' : (s.moved chars lines).opened =
          b.moved chars lines :: outer.map (OpenBlock.moved chars lines) := by simp [moved, hopened]
      rw [hopened']
      dsimp only
      rw [show (b.moved chars lines).tag = b.tag from rfl]
      split
      · exact report_moved chars lines s (.onLine .error _ line)
      · split <;> simp [moved, OpenBlock.moved]

theorem lines_moved (s : BlockScan) (opened : Option Text) (line pos : Nat) (ls : List Text) :
    (s.moved chars lines).lines opened (line + lines) (pos + chars) ls =
      (s.lines opened line pos ls).moved chars lines := by
  induction ls generalizing s opened line pos with
  | nil => rfl
  | cons l ls ih =>
    have hstop : pos + chars + l.length = pos + l.length + chars := by omega
    have hline : line + lines + 1 = line + 1 + lines := by omega
    simp only [BlockScan.lines, hstop, hline]
    rw [← ih]
    congr 1
    split
    · split
      · exact step_moved chars lines s _ _ _ _
      · rfl
    · rfl

theorem finish_moved (s : BlockScan) :
    (s.moved chars lines).finish =
      (s.finish.1.map (Issue.moved lines), s.finish.2.map (Region.moved chars lines)) := by
  simp [finish, moved, OpenBlock.moved, ← List.map_reverse, Function.comp_def]

end BlockScan

/-! ### Heredocs -/

def OpenHeredoc.moved (chars lines : Nat) (h : OpenHeredoc) : OpenHeredoc :=
  ⟨h.terminator, h.start + chars, h.line + lines, h.isMarkup⟩

theorem heredocLines_moved (chars lines : Nat) {opened : Option OpenHeredoc} (hopened : ∀ h ∈ opened, 1 ≤ h.line)
    (line pos : Nat) (ls : List Text) :
    heredocLines (opened.map (OpenHeredoc.moved chars lines)) (line + lines) (pos + chars) ls =
      ((heredocLines opened line pos ls).1.map (Issue.moved lines),
        (heredocLines opened line pos ls).2.map (Region.moved chars lines)) := by
  induction ls generalizing opened line pos with
  | nil =>
    cases opened with
    | none => rfl
    | some h =>
      have hline : h.line + lines - 1 = h.line - 1 + lines := by
        have := hopened h rfl
        omega
      cases hmarkup : h.isMarkup with
      | true => simp [heredocLines, OpenHeredoc.moved, hmarkup, hline]
      | false => simp [heredocLines, OpenHeredoc.moved, hmarkup]
  | cons l ls ih =>
    have hstop : pos + chars + l.length = pos + l.length + chars := by omega
    have hnext : line + lines + 1 = line + 1 + lines := by omega
    cases opened with
    | none =>
      simp only [heredocLines, Option.map_none, hstop, hnext]
      rw [← ih, Option.map_map]
      · rfl
      · simp
    | some h =>
      simp only [heredocLines, Option.map_some, hstop, hnext]
      rw [show (h.moved chars lines).terminator = h.terminator from rfl,
        show (h.moved chars lines).isMarkup = h.isMarkup from rfl]
      split
      · have hnone := @ih none (by simp) (line + 1) (pos + l.length)
        rw [Option.map_none] at hnone
        rw [hnone]
        split <;> simp [OpenHeredoc.moved]
      · exact ih hopened (line + 1) (pos + l.length)

end ProblemLint
