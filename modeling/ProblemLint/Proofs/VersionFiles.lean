import ProblemLint.Proofs.Scripts
import ProblemLint.Proofs.VersionAssignments

/-! Writing a version. The version file then says it, the project file has it in place of its first assignment, all other
files are as they were, and writing it once more changes nothing. -/

namespace ProblemLint

variable {t u : FileTree} {p q : Place} {h : Host}

namespace Release

open Script (outcome_bind_of_ok)

variable {folder contents v a w b : Text}

/-- A version that can be quoted and read back. -/
structure IsVersion (v : Text) : Prop where
  ne_nil : v ≠ []
  no_quote : '"' ∉ v
  no_backslash : '\\' ∉ v
  no_return : '\r' ∉ v
  trim_eq : Text.trim v = v

def SaysVersion (t : FileTree) (folder v : Text) : Prop := ∃ s, t.ReadsAs (versionFile folder) s ∧ Text.trim s = v

/-- What the version file says is compared with the version; without a file it is the empty text, which is no version. -/
theorem exists_current (hopen : h.tree.Open (versionFile folder) q)
    (htext : ∀ bs, h.tree.read (versionFile folder) = .ok bs → ∃ s, Utf8.readText bs = .ok s) (hv : IsVersion v) :
    ∃ current, (markVersion folder v).outcome h =
        (if current != v then Script.writeText (versionFile folder) (v ++ ['\n']) else pure ()).outcome h ∧
      (current = v ↔ SaysVersion h.tree folder v) := by
  have hthere : (Script.isFile (versionFile folder)).outcome h = (.ok (h.tree.isFile (versionFile folder)), h) := rfl
  rw [hopen.isFile_eq] at hthere
  delta markVersion
  rw [outcome_bind_of_ok hthere]
  cases hbytes : h.tree.bytes? q with
  | none =>
    refine ⟨[], rfl, fun hnil => absurd hnil.symm hv.ne_nil, ?_⟩
    rintro ⟨s, hs, -⟩
    obtain ⟨bs, hbs, -⟩ := hopen.readsAs_iff.1 hs
    rw [hbytes] at hbs
    cases hbs
  | some bs =>
    have hread := hopen.read_eq_ok_iff.2 hbytes
    obtain ⟨s, hs⟩ := htext bs hread
    refine ⟨Text.trim s, ?_, fun htrim => ⟨s, ⟨bs, hread, hs⟩, htrim⟩, ?_⟩
    · simp only [Option.isSome_some, if_true]
      rw [outcome_bind_of_ok (Script.outcome_readText hopen ⟨bs, hread, hs⟩), pure_bind]
    · rintro ⟨s', ⟨bs', hread', hs'⟩, htrim⟩
      rw [hread] at hread'
      cases hread'
      rw [hs] at hs'
      cases hs'
      exact htrim

theorem outcome_markVersion (hopen : h.tree.Open (versionFile folder) q)
    (htext : ∀ bs, h.tree.read (versionFile folder) = .ok bs → ∃ s, Utf8.readText bs = .ok s) (hv : IsVersion v) :
    ∃ u, (markVersion folder v).outcome h = (.ok (), { h with tree := u }) ∧ h.tree.SameBut u q ∧
      SaysVersion u folder v ∧ (SaysVersion h.tree folder v → u = h.tree) := by
  obtain ⟨current, hmark, hcurrent⟩ := exists_current hopen htext hv
  have hreturn : '\r' ∉ v ++ ['\n'] := by simp [hv.no_return]
  obtain ⟨u, hwrite, hsame, hneeded, hleft⟩ := Script.outcome_writeText_if hopen hreturn ((current != v) = true)
  rw [bne_iff_ne] at hneeded hleft
  refine ⟨u, hmark.trans hwrite, hsame, ?_, fun hsaid => hleft (not_not.2 (hcurrent.2 hsaid))⟩
  by_cases heq : current = v
  · rw [hleft (not_not.2 heq)]
    exact hcurrent.1 heq
  · refine ⟨v ++ ['\n'], hneeded heq, ?_⟩
    rw [Text.trim_append_singleton (by decide), hv.trim_eq]

theorem outcome_assignVersion (hopen : h.tree.Open (projectFile folder) p)
    (htext : h.tree.ReadsAs (projectFile folder) contents) (hfirst : FirstAssignment contents a w b)
    (hv : IsVersion v) :
    ∃ u, (assignVersion folder v).outcome h = (.ok (), { h with tree := u }) ∧ h.tree.SameBut u p ∧
      u.ReadsAs (projectFile folder) (a ++ (assignment v ++ b)) ∧
      (contents = a ++ (assignment v ++ b) → u = h.tree) := by
  have hfind : (findProjectFile folder).outcome h = (.ok (projectFile folder), h) := by
    rw [findProjectFile, outcome_bind_of_ok (Script.outcome_isFile hopen htext)]
    rfl
  have hreturn : '\r' ∉ a ++ (assignment v ++ b) := by
    have hcontents := htext.return_not_mem
    have hassign : '\r' ∉ assignment v := not_mem_assignment (by decide) hv.no_return
    rw [hfirst.text_eq] at hcontents
    simp_all
  obtain ⟨ps, hps, hfill⟩ := exists_template (not_mem_assignment (by decide) hv.no_backslash)
  obtain ⟨u, hwrite, hsame, hneeded, hleft⟩ :=
    Script.outcome_writeText_if hopen hreturn ((a ++ (assignment v ++ b) != contents) = true)
  rw [bne_iff_ne] at hneeded hleft
  refine ⟨u, ?_, hsame, ?_, fun heq => hleft (not_not.2 heq.symm)⟩
  · delta assignVersion
    rw [outcome_bind_of_ok hfind, outcome_bind_of_ok (Script.outcome_readText hopen htext), hps]
    simp only [pure_bind, hfirst.setVersion?_eq, hfill]
    exact hwrite
  · by_cases heq : a ++ (assignment v ++ b) = contents
    · rwa [hleft (not_not.2 heq), heq]
    · exact hneeded heq

/-! ### Packages -/

/-- A folder whose project file has a text, and in which the version file has one too or can be made. -/
structure IsPackage (t : FileTree) (folder contents : Text) : Prop where
  project : t.ReadsAs (projectFile folder) contents
  version : ∀ bs, t.read (versionFile folder) = .ok bs → ∃ s, Utf8.readText bs = .ok s
  project_no_folder : t.isFolder (projectFile folder) = false
  version_no_folder : t.isFolder (versionFile folder) = false

theorem isPlainName_project : FileTree.IsPlainName "pyproject.toml".toList where
  ne_nil := by decide
  no_slash := by decide
  enters := fun _ => rfl

theorem isPlainName_version : FileTree.IsPlainName "VERSION".toList where
  ne_nil := by decide
  no_slash := by decide
  enters := fun _ => rfl

theorem IsPackage.exists_places (hp : IsPackage t folder contents) :
    ∃ q p, q ≠ p ∧ t.Open (versionFile folder) q ∧ t.Open (projectFile folder) p := by
  obtain ⟨bs, hbs, -⟩ := hp.project
  obtain ⟨p, hproject⟩ := FileTree.exists_resolve hbs
  obtain ⟨dir, rfl, hversion⟩ := FileTree.resolve_sibling isPlainName_project isPlainName_version hproject
  refine ⟨_, _, ?_, (FileTree.open_iff hversion).2 hp.version_no_folder,
    (FileTree.open_iff hproject).2 hp.project_no_folder⟩
  rw [Ne, List.append_cancel_left_eq, List.singleton_inj]
  decide

theorem isPackage_of_open (hversion : t.Open (versionFile folder) q) (hproject : t.Open (projectFile folder) p)
    (htext : t.ReadsAs (projectFile folder) contents) (hsaid : SaysVersion t folder v) : IsPackage t folder contents where
  project := htext
  version := by
    intro bs hbs
    obtain ⟨s, ⟨bs', hbs', hs⟩, -⟩ := hsaid
    rw [hbs] at hbs'
    cases hbs'
    exact ⟨s, hs⟩
  project_no_folder := (FileTree.open_iff hproject.resolve_eq).1 hproject
  version_no_folder := (FileTree.open_iff hversion.resolve_eq).1 hversion

theorem outcome_updateVersion (hp : IsPackage h.tree folder contents) (hfirst : FirstAssignment contents a w b)
    (hv : IsVersion v) :
    ∃ u, (updateVersion folder v).outcome h = (.ok (), { h with tree := u }) ∧
      IsPackage u folder (a ++ (assignment v ++ b)) ∧ SaysVersion u folder v ∧
      u.folders = h.tree.folders ∧
      (∀ r, h.tree.resolve (versionFile folder) ≠ .ok r → h.tree.resolve (projectFile folder) ≠ .ok r →
        u.bytes? r = h.tree.bytes? r) ∧
      (SaysVersion h.tree folder v → contents = a ++ (assignment v ++ b) → u = h.tree) := by
  obtain ⟨q, p, hne, hversion, hproject⟩ := hp.exists_places
  obtain ⟨t, hmark, hmarked, hsaid, hleft⟩ := outcome_markVersion hversion hp.version hv
  have hversion' := hversion.of_folders hmarked.folders_eq
  have hproject' := hproject.of_folders hmarked.folders_eq
  have htext : t.ReadsAs (projectFile folder) contents := hmarked.readsAs hproject hne.symm hp.project
  obtain ⟨u, hassign, hassigned, hreads, hleft'⟩ :=
    outcome_assignVersion (h := { h with tree := t }) hproject' htext hfirst hv
  have hsaid' : SaysVersion u folder v := by
    obtain ⟨s, hs, htrim⟩ := hsaid
    exact ⟨s, hassigned.readsAs hversion' hne hs, htrim⟩
  refine ⟨u, ?_, ?_, hsaid', hassigned.folders_eq.trans hmarked.folders_eq, ?_, ?_⟩
  · rw [updateVersion, outcome_bind_of_ok hmark, hassign]
  · exact isPackage_of_open (hversion'.of_folders hassigned.folders_eq) (hproject'.of_folders hassigned.folders_eq) hreads
      hsaid'
  · intro r hr hr'
    rw [hversion.resolve_eq] at hr
    rw [hproject.resolve_eq] at hr'
    have hrq : r ≠ q := fun heq => hr (congrArg Except.ok heq.symm)
    have hrp : r ≠ p := fun heq => hr' (congrArg Except.ok heq.symm)
    exact (hassigned.bytes?_eq r hrp).trans (hmarked.bytes?_eq r hrq)
  · intro hbefore heq
    exact (hleft' heq).trans (hleft hbefore)

theorem outcome_readVersionFile (hp : IsPackage h.tree folder contents) (hsaid : SaysVersion h.tree folder v) :
    (readVersionFile folder).outcome h = (.ok v, h) := by
  obtain ⟨q, p, -, hversion, -⟩ := hp.exists_places
  obtain ⟨s, hs, rfl⟩ := hsaid
  delta readVersionFile
  rw [outcome_bind_of_ok (Script.outcome_isFile hversion hs), if_pos rfl,
    outcome_bind_of_ok (Script.outcome_readText hversion hs)]
  rfl

/-- If a project file has an assignment, a version can be written to the package. The version file then says it, the
project file has it in place of the first assignment and is otherwise as it was, no other file is touched, and a second
update leaves everything as it is. -/
theorem updateVersion_settles (h : Host) {folder contents v : Text} (hp : IsPackage h.tree folder contents)
    (hassigned : ∃ a w b, AssignmentAt contents a w b) (hv : IsVersion v) :
    ∃ u, (updateVersion folder v).outcome h = (.ok (), { h with tree := u }) ∧
      (readVersionFile folder).outcome { h with tree := u } = (.ok v, { h with tree := u }) ∧
      (∃ a w b, FirstAssignment contents a w b) ∧
      (∀ a w b, FirstAssignment contents a w b → (Script.readText (projectFile folder)).outcome { h with tree := u } =
        (.ok (a ++ (assignment v ++ b)), { h with tree := u })) ∧
      u.folders = h.tree.folders ∧
      (∀ r, h.tree.resolve (versionFile folder) ≠ .ok r → h.tree.resolve (projectFile folder) ≠ .ok r →
        u.bytes? r = h.tree.bytes? r) ∧
      (updateVersion folder v).outcome { h with tree := u } = (.ok (), { h with tree := u }) := by
  obtain ⟨a, w, b, hfirst⟩ := exists_first hassigned
  obtain ⟨u, hrun, hp', hsaid, hfolders, hframe, -⟩ := outcome_updateVersion hp hfirst hv
  have hfirst' := hfirst.replace (isAssignment_assignment hv.ne_nil hv.no_quote)
  obtain ⟨u', hrun', -, -, -, -, hleft⟩ := outcome_updateVersion (h := { h with tree := u }) hp' hfirst' hv
  obtain rfl : u' = u := hleft hsaid rfl
  refine ⟨u', hrun, outcome_readVersionFile hp' hsaid, ⟨a, w, b, hfirst⟩, ?_, hfolders, hframe, hrun'⟩
  intro a' w' b' hat
  -- two first assignments are replaced with the same result
  have hsame : a ++ (assignment v ++ b) = a' ++ (assignment v ++ b') := by
    have hset := hfirst.setVersion?_eq fun _ => assignment v
    rw [hat.setVersion?_eq] at hset
    exact (Option.some.inj hset).symm
  obtain ⟨q, p, -, -, hproject⟩ := hp'.exists_places
  rw [← hsame]
  exact Script.outcome_readText hproject hp'.project

/-- The first assignment of this project file ends at the quote mark that starts the second one's version. -/
def crossedTree : FileTree where
  files := [(["VERSION"], Utf8.encode "0.9\n".toList),
    (["pyproject.toml"], Utf8.encode "version = \"1\r\nversion = \"2\"\r\n".toList)]

theorem isPackage_crossedTree : IsPackage crossedTree ['.'] "version = \"1\nversion = \"2\"\n".toList where
  project := by
    refine ⟨Utf8.encode "version = \"1\r\nversion = \"2\"\r\n".toList, rfl, ?_⟩
    rw [Utf8.readText, Utf8.decode_encode]
    rfl
  version := by
    intro bs hbs
    obtain rfl : Utf8.encode "0.9\n".toList = bs := Except.ok.inj hbs
    exact ⟨_, Utf8.readText_encode (by decide)⟩
  project_no_folder := by decide
  version_no_folder := by decide

theorem firstAssignment_crossed : FirstAssignment "version = \"1\nversion = \"2\"\n".toList []
    (written [' '] [' '] "1\nversion = ".toList) "2\"\n".toList where
  text_eq := rfl
  starts_line := .inl rfl
  assigns := ⟨[' '], [' '], _, List.forall_mem_singleton.2 rfl, List.forall_mem_singleton.2 rfl, by decide, by decide, rfl⟩
  first := fun _ => Nat.zero_le _

theorem updateVersion_settles_crossed :
    IsPackage crossedTree ['.'] "version = \"1\nversion = \"2\"\n".toList ∧ IsVersion ['3'] ∧
      ∃ u, (updateVersion ['.'] ['3']).outcome { tree := crossedTree } = (.ok (), { tree := u }) ∧
        (readVersionFile ['.']).outcome { tree := u } = (.ok ['3'], { tree := u }) ∧
        (Script.readText (projectFile ['.'])).outcome { tree := u } =
          (.ok "version = \"3\"2\"\n".toList, { tree := u }) ∧
        (updateVersion ['.'] ['3']).outcome { tree := u } = (.ok (), { tree := u }) := by
  have hv : IsVersion ['3'] := ⟨by decide, by decide, by decide, by decide, by decide⟩
  obtain ⟨u, hrun, hversion, -, hproject, -, -, hagain⟩ := updateVersion_settles { tree := crossedTree }
    isPackage_crossedTree ⟨_, _, _, firstAssignment_crossed.toAssignmentAt⟩ hv
  refine ⟨isPackage_crossedTree, hv, u, hrun, hversion, ?_, hagain⟩
  exact hproject _ _ _ firstAssignment_crossed

end Release
end ProblemLint
