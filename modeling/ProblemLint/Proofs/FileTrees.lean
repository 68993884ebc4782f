import ProblemLint.File.Tree
import ProblemLint.Proofs.Lines

/-! Files and their places. A path leads to a place through folders, so writing a file changes no folder and only that
file; and two names in one folder lead to two places in it. -/

namespace ProblemLint

variable {t u : FileTree} {p q : Place} {path : Text}

namespace FileTree

/-! ### Paths lead through folders -/

def enter (p : Place) (name : String) : Place :=
  if name == "" || name == "." then p else if name == ".." then p.dropLast else p ++ [name]

theorem follow_cons_eq_ok_iff {name : String} {names : List String} :
    t.follow p (name :: names) = .ok q ↔ t.hasFolder p = true ∧ t.follow (enter p name) names = .ok q := by
  rw [follow, enter]
  cases hfolder : t.hasFolder p with
  | false => simp
  | true =>
    simp only [Bool.not_true, Bool.false_eq_true, if_false, true_and]
    split_ifs <;> rfl

theorem follow_append_eq_ok_iff {names rest : List String} :
    t.follow p (names ++ rest) = .ok q ↔ ∃ r, t.follow p names = .ok r ∧ t.follow r rest = .ok q := by
  induction names generalizing p with
  | nil =>
    refine ⟨fun h => ⟨p, rfl, h⟩, ?_⟩
    rintro ⟨r, ⟨⟩, h⟩
    exact h
  | cons name names ih =>
    simp only [List.cons_append, follow_cons_eq_ok_iff, ih]
    exact ⟨fun ⟨hp, r, hr, hq⟩ => ⟨r, ⟨hp, hr⟩, hq⟩, fun ⟨r, ⟨hp, hr⟩, hq⟩ => ⟨hp, r, hr, hq⟩⟩

/-- A path leads to the same place in a tree with the same folders. -/
theorem follow_of_folders (hfolders : u.folders = t.folders) {names : List String} (h : t.follow p names = .ok q) :
    u.follow p names = .ok q := by
  induction names generalizing p with
  | nil => exact h
  | cons name names ih =>
    obtain ⟨hp, hrest⟩ := follow_cons_eq_ok_iff.1 h
    refine follow_cons_eq_ok_iff.2 ⟨?_, ih hrest⟩
    rwa [hasFolder, hfolders]

theorem resolve_eq_ok_iff : t.resolve path = .ok p ↔
    path ≠ [] ∧ path.head? ≠ some '/' ∧ t.follow [] ((Text.splitOn '/' path).map String.ofList) = .ok p := by
  rw [resolve]
  by_cases hpath : path = [] ∨ path.head? = some '/'
  · rcases hpath with rfl | hpath
    · simp
    · simp [hpath]
  · obtain ⟨hne, hhead⟩ := not_or.1 hpath
    simp [hne, hhead]

theorem resolve_of_folders (hfolders : u.folders = t.folders) (h : t.resolve path = .ok p) : u.resolve path = .ok p := by
  obtain ⟨hne, hhead, hfollow⟩ := resolve_eq_ok_iff.1 h
  exact resolve_eq_ok_iff.2 ⟨hne, hhead, follow_of_folders hfolders hfollow⟩

/-- All that is above a place is a folder. -/
def Reached (t : FileTree) (p : Place) : Prop := ∀ a, a <+: p → a ≠ p → t.hasFolder a = true

theorem Reached.dropLast (h : t.Reached p) : t.Reached p.dropLast := by
  intro a ha hne
  have hup : p.dropLast <+: p := List.dropLast_prefix p
  refine h a (ha.trans hup) ?_
  rintro rfl
  exact hne (hup.eq_of_length_le ha.length_le).symm

theorem Reached.enter (h : t.Reached p) (hp : t.hasFolder p = true) (name : String) : t.Reached (enter p name) := by
  intro a ha hne
  unfold FileTree.enter at ha hne
  split_ifs at ha hne
  · exact h a ha hne
  · exact h.dropLast a ha hne
  · rcases List.prefix_concat_iff.1 ha with rfl | ha
    · exact absurd rfl hne
    · by_cases hap : a = p
      · rwa [hap]
      · exact h a ha hap

theorem Reached.of_follow {names : List String} (hp : t.Reached p) (h : t.follow p names = .ok q) : t.Reached q := by
  induction names generalizing p with
  | nil =>
    cases h
    exact hp
  | cons name names ih =>
    obtain ⟨hfolder, hrest⟩ := follow_cons_eq_ok_iff.1 h
    exact ih (hp.enter hfolder name) hrest

theorem reached_of_resolve (h : t.resolve path = .ok p) : t.Reached p := by
  obtain ⟨-, -, hfollow⟩ := resolve_eq_ok_iff.1 h
  exact Reached.of_follow (fun a ha hne => absurd (List.prefix_nil.1 ha) hne) hfollow

/-! ### Two names in one folder -/

/-- A name that leads from a folder to what lies in it. -/
structure IsPlainName (name : Text) : Prop where
  ne_nil : name ≠ []
  no_slash : '/' ∉ name
  enters : ∀ p, enter p (String.ofList name) = p ++ [String.ofList name]

end FileTree

namespace Text

theorem splitOn_of_not_mem {sep : Char} {l : Text} (h : sep ∉ l) : splitOn sep l = [l] := by
  induction l with
  | nil => rfl
  | cons c l ih =>
    obtain ⟨hc, hl⟩ := not_or.1 (List.mem_cons.not.1 h)
    simp [splitOn, ih hl, Ne.symm hc]

theorem splitOn_append_sep (sep : Char) (a b : Text) : splitOn sep (a ++ sep :: b) = splitOn sep a ++ splitOn sep b := by
  induction a with
  | nil =>
    obtain ⟨l, ls, hb⟩ := List.exists_cons_of_ne_nil (splitOn_ne_nil sep b)
    simp [splitOn, hb]
  | cons c a ih =>
    obtain ⟨l, ls, ha⟩ := List.exists_cons_of_ne_nil (splitOn_ne_nil sep a)
    rw [ha, List.cons_append] at ih
    simp only [List.cons_append, splitOn, ih, ha]
    split <;> rfl

end Text

namespace Path

open FileTree (IsPlainName)

/-- The names of a path in a folder are those of the folder, and the last one. -/
theorem exists_names_join (folder : Text) : ∃ names, ∀ name, IsPlainName name →
    (Text.splitOn '/' (join folder name)).map String.ofList = names ++ [String.ofList name] := by
  by_cases hnil : folder = []
  · subst hnil
    exact ⟨[], fun name hname => by rw [join]; simp [Text.splitOn_of_not_mem hname.no_slash]⟩
  · by_cases hslash : folder.getLast? = some '/'
    · obtain ⟨a, rfl⟩ := List.getLast?_eq_some_iff.1 hslash
      refine ⟨(Text.splitOn '/' a).map String.ofList, fun name hname => ?_⟩
      have hjoin : join (a ++ ['/']) name = a ++ '/' :: name := by simp [join]
      rw [hjoin, Text.splitOn_append_sep, Text.splitOn_of_not_mem hname.no_slash, List.map_append, List.map_singleton]
    · refine ⟨(Text.splitOn '/' folder).map String.ofList, fun name hname => ?_⟩
      have hjoin : join folder name = folder ++ '/' :: name := by simp [join, hnil, hslash]
      rw [hjoin, Text.splitOn_append_sep, Text.splitOn_of_not_mem hname.no_slash, List.map_append, List.map_singleton]

theorem head?_join_eq_slash_iff {folder name : Text} (hname : IsPlainName name) :
    (join folder name).head? = some '/' ↔ folder.head? = some '/' := by
  obtain ⟨c, r, rfl⟩ := List.exists_cons_of_ne_nil hname.ne_nil
  cases folder with
  | nil =>
    have hc : c ≠ '/' := fun hc => hname.no_slash (hc ▸ List.mem_cons_self)
    simpa [join] using hc
  | cons d folder =>
    rw [join]
    split <;> rfl

end Path

namespace FileTree

/-- If one name in a folder can be resolved, each can. -/
theorem resolve_sibling {folder name other : Text} (hname : IsPlainName name) (hother : IsPlainName other)
    (h : t.resolve (Path.join folder name) = .ok p) :
    ∃ dir, p = dir ++ [String.ofList name] ∧ t.resolve (Path.join folder other) = .ok (dir ++ [String.ofList other]) := by
  obtain ⟨names, hnames⟩ := Path.exists_names_join folder
  obtain ⟨-, hhead, hfollow⟩ := resolve_eq_ok_iff.1 h
  rw [hnames name hname] at hfollow
  obtain ⟨dir, hdir, hlast⟩ := follow_append_eq_ok_iff.1 hfollow
  obtain ⟨hfolder, hend⟩ := follow_cons_eq_ok_iff.1 hlast
  rw [hname.enters] at hend
  cases hend
  refine ⟨dir, rfl, resolve_eq_ok_iff.2 ⟨?_, ?_, ?_⟩⟩
  · rw [Path.join]
    split <;> simp [hother.ne_nil]
  · rwa [Ne, Path.head?_join_eq_slash_iff hother, ← Path.head?_join_eq_slash_iff hname]
  · rw [hnames other hother]
    refine follow_append_eq_ok_iff.2 ⟨dir, hdir, follow_cons_eq_ok_iff.2 ⟨hfolder, ?_⟩⟩
    rw [hother.enters]
    rfl

/-! ### Writing a file -/

theorem of_mem_above {a : Place} (h : a ∈ above p) : a ≠ [] ∧ a <+: p ∧ a ≠ p := by
  induction p generalizing a with
  | nil => cases h
  | cons name rest ih =>
    rw [above] at h
    split at h
    · cases h
    · next hrest =>
      rcases List.mem_cons.1 h with rfl | h
      · refine ⟨List.cons_ne_nil _ _, ⟨rest, rfl⟩, fun heq => hrest ?_⟩
        rw [← (List.cons.inj heq).2]
        rfl
      · obtain ⟨b, hb, rfl⟩ := List.mem_map.1 h
        obtain ⟨-, hle, hne⟩ := ih hb
        exact ⟨List.cons_ne_nil _ _, List.cons_prefix_cons.2 ⟨rfl, hle⟩, fun heq => hne (List.cons.inj heq).2⟩

theorem contains_of_hasFolder (hne : p ≠ []) (h : t.hasFolder p = true) : t.folders.contains p = true := by
  simpa [hasFolder, hne] using h

theorem addFolder_of_reached (hp : t.Reached p) (hfolder : t.hasFolder p = true) : t.addFolder p = t := by
  rw [addFolder]
  split
  · rfl
  · next hne =>
    have hthere : ∀ a ∈ above p ++ [p], t.folders.contains a = true := by
      refine List.forall_mem_append.2 ⟨fun a ha => ?_, List.forall_mem_singleton.2 ?_⟩
      · obtain ⟨hane, hle, hap⟩ := of_mem_above ha
        exact contains_of_hasFolder hane (hp a hle hap)
      · exact contains_of_hasFolder (by simpa using hne) hfolder
    have hnone : (above p ++ [p]).filter (!t.folders.contains ·) = [] := by
      rw [List.filter_eq_nil_iff]
      intro a ha
      rw [hthere a ha]
      decide
    rw [hnone, List.append_nil]

theorem hasFile_eq (t : FileTree) (p : Place) : t.hasFile p = (t.bytes? p).isSome := by
  rw [hasFile, bytes?, Option.isSome_map, List.isSome_find?]

theorem addFolder_files (t : FileTree) (p : Place) : (t.addFolder p).files = t.files := by
  rw [addFolder]
  split <;> rfl

theorem find?_replace (files : List (Place × Bytes)) (p q : Place) (bs : Bytes) :
    ((files.map fun f => if f.1 == p then (p, bs) else f).find? (·.1 == q)).map (·.2) =
      (files.find? (·.1 == q)).map fun f => if q = p then bs else f.2 := by
  have hkey : ((·.1 == q) ∘ fun f : Place × Bytes => if f.1 == p then (p, bs) else f) = (·.1 == q) := by
    funext f
    by_cases hf : f.1 = p <;> simp [hf]
  rw [List.find?_map, hkey, Option.map_map]
  refine Option.map_congr fun f hf => ?_
  have hq : f.1 = q := by simpa using List.find?_some hf
  by_cases hqp : q = p <;> simp [hq, hqp]

/-- A file that is put in its place is found there, and all others are where they were. -/
theorem bytes?_add (t : FileTree) (p q : Place) (bs : Bytes) :
    (t.add p bs).bytes? q = if q = p then some bs else t.bytes? q := by
  have hhas : (t.addFolder p.dropLast).hasFile p = t.hasFile p := by rw [hasFile, addFolder_files, ← hasFile]
  simp only [add, hhas]
  split
  · next hthere =>
    simp only [bytes?, addFolder_files]
    rw [find?_replace]
    split
    · next hq =>
      subst hq
      rw [hasFile_eq, bytes?, Option.isSome_map] at hthere
      obtain ⟨f, hf⟩ := Option.isSome_iff_exists.1 hthere
      rw [hf]
      rfl
    · rfl
  · next hthere =>
    rw [hasFile_eq, bytes?, Option.isSome_map, Bool.not_eq_true, Option.isSome_eq_false_iff, Option.isNone_iff_eq_none]
      at hthere
    simp only [bytes?, addFolder_files, List.find?_append, List.find?_singleton]
    by_cases hq : q = p
    · subst hq
      simp [hthere]
    · simp [hq, Ne.symm hq]

/-! ### Files at their paths -/

/-- A path leads to a place at which a file is or can be. -/
structure Open (t : FileTree) (path : Text) (p : Place) : Prop where
  resolve_eq : t.resolve path = .ok p
  no_folder : t.hasFolder p = false

namespace Open

theorem of_folders (h : Open t path p) (hfolders : u.folders = t.folders) : Open u path p where
  resolve_eq := resolve_of_folders hfolders h.resolve_eq
  no_folder := by rw [hasFolder, hfolders, ← hasFolder, h.no_folder]

theorem isFile_eq (h : Open t path p) : t.isFile path = (t.bytes? p).isSome := by
  rw [isFile, h.resolve_eq, ← hasFile_eq]

theorem read_eq_ok_iff (h : Open t path p) {bs : Bytes} : t.read path = .ok bs ↔ t.bytes? p = some bs := by
  rw [FileTree.read, h.resolve_eq]
  cases hbytes : t.bytes? p with
  | none => simp [bind, Except.bind, hbytes]
  | some bs' => simp [bind, Except.bind, hbytes]

/-- Writing a file leaves the folders and the other files as they are. -/
theorem write (h : Open t path p) (bs : Bytes) :
    ∃ u, t.write path bs = .ok u ∧ u.folders = t.folders ∧ ∀ q, u.bytes? q = if q = p then some bs else t.bytes? q := by
  have hreached := reached_of_resolve h.resolve_eq
  have hne : p ≠ [] := by
    rintro rfl
    exact absurd h.no_folder (by simp [hasFolder])
  have hproper : p.dropLast ≠ p := by
    intro heq
    have hlength := congrArg List.length heq
    rw [List.length_dropLast] at hlength
    have := List.length_pos_iff.2 hne
    omega
  have hfolder : t.hasFolder p.dropLast = true := hreached _ (List.dropLast_prefix p) hproper
  refine ⟨t.add p bs, ?_, ?_, fun q => bytes?_add t p q bs⟩
  · rw [FileTree.write, h.resolve_eq]
    simp [bind, Except.bind, h.no_folder, hfolder]
  · have hsame : t.addFolder p.dropLast = t := addFolder_of_reached hreached.dropLast hfolder
    simp only [add, hsame]
    split <;> rfl

end Open
end FileTree
end ProblemLint
