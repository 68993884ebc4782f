import ProblemLint.Host
import ProblemLint.Proofs.Encoding
import ProblemLint.Proofs.FileTrees

/-! Scripts and text files. What a script gives goes into the script after it; a text file that is written is read back,
and nothing but that file has changed. -/

namespace ProblemLint

variable {t u : FileTree} {p q : Place} {path s : Text} {h : Host}

namespace FileTree

/-- The text of the file that a path names, with every line break a line feed. -/
def ReadsAs (t : FileTree) (path s : Text) : Prop := ∃ bs, t.read path = .ok bs ∧ Utf8.readText bs = .ok s

/-- Nothing has changed but the file at a place. -/
structure SameBut (t u : FileTree) (p : Place) : Prop where
  folders_eq : u.folders = t.folders
  bytes?_eq : ∀ q, q ≠ p → u.bytes? q = t.bytes? q

theorem ReadsAs.return_not_mem (hs : t.ReadsAs path s) : '\r' ∉ s := by
  obtain ⟨bs, -, hs⟩ := hs
  exact Utf8.return_not_mem_of_readText hs

theorem Open.readsAs_iff (hopen : t.Open path p) :
    t.ReadsAs path s ↔ ∃ bs, t.bytes? p = some bs ∧ Utf8.readText bs = .ok s := by
  simp only [ReadsAs, hopen.read_eq_ok_iff]

theorem exists_resolve {bs : Bytes} (hread : t.read path = .ok bs) : ∃ p, t.resolve path = .ok p := by
  cases hresolve : t.resolve path with
  | error e =>
    rw [FileTree.read, hresolve] at hread
    cases hread
  | ok p => exact ⟨p, rfl⟩

theorem open_iff (hresolve : t.resolve path = .ok p) : t.Open path p ↔ t.isFolder path = false := by
  have hfolder : t.isFolder path = t.hasFolder p := by rw [isFolder, hresolve]
  rw [hfolder]
  exact ⟨Open.no_folder, fun h => ⟨hresolve, h⟩⟩

theorem SameBut.readsAs (hsame : t.SameBut u p) (hopen : t.Open path q) (hne : q ≠ p) (hs : t.ReadsAs path s) :
    u.ReadsAs path s := by
  rw [hopen.readsAs_iff] at hs
  rwa [(hopen.of_folders hsame.folders_eq).readsAs_iff, hsame.bytes?_eq q hne]

end FileTree

namespace Script

/-! ### One script after another -/

theorem outcome_bind_of_ok {α β : Type} {s : Script α} {h h' : Host} {a : α} (hs : s.outcome h = (.ok a, h'))
    (next : α → Script β) : (s >>= next).outcome h = (next a).outcome h' := by
  unfold outcome at hs ⊢
  rw [ExceptT.run_bind, StateT.run_bind, hs]
  rfl

theorem exists_of_outcome_bind {α β : Type} {s : Script α} {next : α → Script β} {h h' : Host} {b : β}
    (hs : (s >>= next).outcome h = (.ok b, h')) :
    ∃ a h₁, s.outcome h = (.ok a, h₁) ∧ (next a).outcome h₁ = (.ok b, h') := by
  rcases hfirst : s.outcome h with ⟨a | a, h₁⟩
  · unfold outcome at hs hfirst
    rw [ExceptT.run_bind, StateT.run_bind, hfirst] at hs
    cases hs
  · rw [outcome_bind_of_ok hfirst] at hs
    exact ⟨a, h₁, rfl, hs⟩

/-! ### Files -/

/-- A path in the tree is not that of the scratch file. -/
theorem ne_scratchPath (hopen : t.Open path p) : (path == Host.scratchPath) = false := by
  rw [beq_eq_false_iff_ne]
  rintro rfl
  obtain ⟨-, hhead, -⟩ := FileTree.resolve_eq_ok_iff.1 hopen.resolve_eq
  exact hhead (by decide)

theorem outcome_readText (hopen : h.tree.Open path p) (hs : h.tree.ReadsAs path s) :
    (readText path).outcome h = (.ok s, h) := by
  obtain ⟨bs, hbs, hs⟩ := hs
  have hbytes : h.bytes path = .ok bs := by rw [Host.bytes, ne_scratchPath hopen, if_neg Bool.false_ne_true, hbs]
  have hread : (readBytes path).outcome h = (ofFile (h.bytes path)).outcome h := rfl
  rw [hbytes] at hread
  rw [readText, outcome_bind_of_ok hread, hs]
  rfl

theorem outcome_isFile (hopen : h.tree.Open path p) (hs : h.tree.ReadsAs path s) :
    (isFile path).outcome h = (.ok true, h) := by
  obtain ⟨bs, hbs, -⟩ := hopen.readsAs_iff.1 hs
  have hthere : h.tree.isFile path = true := by rw [hopen.isFile_eq, hbs, Option.isSome_some]
  rw [← hthere]
  rfl

theorem outcome_writeText (hopen : h.tree.Open path p) (hs : '\r' ∉ s) :
    ∃ u, (writeText path s).outcome h = (.ok (), { h with tree := u }) ∧ h.tree.SameBut u p ∧ u.ReadsAs path s := by
  obtain ⟨u, hwrite, hfolders, hbytes⟩ := hopen.write (Utf8.encode s)
  have hput : h.put path (Utf8.encode s) = .ok { h with tree := u } := by
    rw [Host.put, ne_scratchPath hopen, if_neg Bool.false_ne_true, hwrite]
    rfl
  refine ⟨u, ?_, ⟨hfolders, fun q hq => (hbytes q).trans (if_neg hq)⟩, ?_⟩
  · have hset : (writeText path s).outcome h = (ofFile (h.put path (Utf8.encode s)) >>= set).outcome h := rfl
    rw [hset, hput]
    rfl
  · rw [(hopen.of_folders hfolders).readsAs_iff]
    exact ⟨Utf8.encode s, (hbytes p).trans (if_pos rfl), Utf8.readText_encode hs⟩

/-- A file that is written only if it has to be. -/
theorem outcome_writeText_if (hopen : h.tree.Open path p) (hs : '\r' ∉ s) (needed : Prop) [Decidable needed] :
    ∃ u, (if needed then writeText path s else pure ()).outcome h = (.ok (), { h with tree := u }) ∧
      h.tree.SameBut u p ∧ (needed → u.ReadsAs path s) ∧ (¬needed → u = h.tree) := by
  by_cases hneeded : needed
  · obtain ⟨u, hwrite, hsame, hreads⟩ := outcome_writeText hopen hs
    exact ⟨u, by rw [if_pos hneeded, hwrite], hsame, fun _ => hreads, fun hnot => absurd hneeded hnot⟩
  · exact ⟨h.tree, by rw [if_neg hneeded]; rfl, ⟨rfl, fun _ _ => rfl⟩, fun hn => absurd hn hneeded, fun _ => rfl⟩

theorem outcome_writeText_scratch (t : Text) (h : Host) :
    (writeText Host.scratchPath t).outcome h = (.ok (), { h with scratch := some (Utf8.encode t) }) := rfl

theorem outcome_readText_scratch {t : Text} (ht : '\r' ∉ t) {h : Host} (hscratch : h.scratch = some (Utf8.encode t)) :
    (readText Host.scratchPath).outcome h = (.ok t, h) := by
  have hbytes : (readBytes Host.scratchPath).outcome h = (.ok (Utf8.encode t), h) := by
    obtain ⟨tree, programs, settings, scratch, printed, noted, command⟩ := h
    cases hscratch
    rfl
  rw [readText, outcome_bind_of_ok hbytes, Utf8.readText_encode ht]
  rfl

end Script

end ProblemLint
