import ProblemLint.Registry
import ProblemLint.Proofs.Selection

/-! What a registry holds after any calls. A registry keeps a map of entries and a list of keys, and an action
changes them one after the other; a refused action could leave one of them changed. None does: every refusal comes
before the first change. So map and list agree after every sequence of calls, and choosing entries picks from the
list of those that were accepted. -/

namespace ProblemLint

/-- A call on a registry: to register an entry, or to load the module at a path, with what the file there defines or
why it defines nothing. -/
inductive RegistryCall where
  | register (e : Entry)
  | load (path : String) (found : Except LoadError Fields)

def Entry.ofModule? (a : Fields) : Option Entry := do
  let id ← Fields.get? a "PLUGIN_ID"
  let name ← Fields.get? a "PLUGIN_NAME"
  let _ ← Fields.get? a "run"
  some (.ofParts id.display name.display (((Fields.get? a "DEFAULT_ENABLED").map Value.truthy).getD true))

namespace RegistryCall

def action : RegistryCall → Registering Unit
  | .register e => .add e
  | .load path found => .addFrom path found

/-- The entry that a call is about; there is none if the path does not lead to a module that has all it needs. -/
def candidate? : RegistryCall → Option Entry
  | .register e => some e
  | .load path found =>
    if Registering.isModulePath path.toList then found.toOption.bind Entry.ofModule? else none

end RegistryCall

namespace Registering

theorem outcome_add (e : Entry) (r : Registry) :
    (add e).outcome r =
      if (r.known.get? e.key).isSome then (.error (.duplicate e.key), r)
      else (.ok (), ⟨r.known.set e.key e, r.order ++ [e.key]⟩) := by
  have hread : (add e).outcome r = (if (r.known.get? e.key).isSome then throw (.duplicate e.key) else do
      modify fun r => { r with known := r.known.set e.key e }
      modify fun r => { r with order := r.order ++ [e.key] } : Registering Unit).outcome r := rfl
  rw [hread]
  split <;> rfl

theorem required_of_some {a : Fields} {name : String} {v : Value} (h : Fields.get? a name = some v) :
    required a name = pure v := by
  rw [required, h]

theorem outcome_required_of_none {a : Fields} {name : String} (h : Fields.get? a name = none)
    (next : Value → Registering Unit) (r : Registry) :
    (required a name >>= next).outcome r = (.error (.missingAttribute r.known.size name), r) := by
  rw [required, h]
  rfl

/-- Adding a module comes to adding its entry; if it lacks something, it is refused and nothing is changed. -/
theorem outcome_addModule (a : Fields) (r : Registry) :
    (∃ e, Entry.ofModule? a = some e ∧ (addModule a).outcome r = (add e).outcome r) ∨
      Entry.ofModule? a = none ∧ ∃ refusal, (addModule a).outcome r = (.error refusal, r) := by
  unfold addModule Entry.ofModule?
  cases hid : Fields.get? a "PLUGIN_ID" with
  | none => exact .inr ⟨rfl, _, outcome_required_of_none hid _ r⟩
  | some id =>
    rw [required_of_some hid, pure_bind]
    cases hname : Fields.get? a "PLUGIN_NAME" with
    | none => exact .inr ⟨rfl, _, outcome_required_of_none hname _ r⟩
    | some name =>
      rw [required_of_some hname, pure_bind]
      cases hrun : Fields.get? a "run" with
      | none => exact .inr ⟨rfl, _, outcome_required_of_none hrun _ r⟩
      | some run =>
        rw [required_of_some hrun, pure_bind]
        exact .inl ⟨_, rfl, rfl⟩

end Registering

namespace RegistryCall

/-- A call comes to adding the entry that it is about; if there is none, it is refused and nothing is changed. -/
theorem outcome_eq_add (c : RegistryCall) (r : Registry) :
    (∃ e, c.candidate? = some e ∧ c.action.outcome r = (Registering.add e).outcome r) ∨
      c.candidate? = none ∧ ∃ refusal, c.action.outcome r = (.error refusal, r) := by
  cases c with
  | register e => exact .inl ⟨e, rfl, rfl⟩
  | load path found =>
    simp only [candidate?, action, Registering.addFrom]
    split
    · cases found with
      | error e => exact .inr ⟨rfl, _, rfl⟩
      | ok a => exact Registering.outcome_addModule a r
    · exact .inr ⟨rfl, _, rfl⟩

/-- A call is accepted just if it is about an entry whose key is new; then the entry is added to the map, and its
key to the list. A call that is refused changes nothing. -/
theorem outcome_cases (c : RegistryCall) (r : Registry) :
    (∃ e, c.candidate? = some e ∧ r.known.get? e.key = none ∧
        c.action.outcome r = (.ok (), ⟨r.known.set e.key e, r.order ++ [e.key]⟩)) ∨
      (∀ e, c.candidate? = some e → r.known.get? e.key ≠ none) ∧
        ∃ refusal, c.action.outcome r = (.error refusal, r) := by
  rcases c.outcome_eq_add r with ⟨e, hentry, haction⟩ | ⟨hentry, hrefusal⟩
  · rw [Registering.outcome_add] at haction
    split at haction
    · next hknown =>
      refine .inr ⟨fun e' he' => ?_, _, haction⟩
      rw [hentry] at he'
      cases he'
      exact Option.isSome_iff_ne_none.1 hknown
    · next hnew => exact .inl ⟨e, hentry, by simpa using hnew, haction⟩
  · exact .inr ⟨fun e he => by simp [hentry] at he, hrefusal⟩

end RegistryCall

namespace Registry

/-- A registry that holds some entries, in this order: they are the values of its map and their keys its list, and
no two of them have one key. -/
structure Holds (r : Registry) (es : List Entry) : Prop where
  known : r.known.pairs = es.map fun e => (e.key, e)
  order : r.order = es.map (·.key)
  nodup : (es.map (·.key)).Nodup

theorem holds_empty : Holds {} [] := ⟨rfl, rfl, .nil⟩

namespace Holds

variable {r : Registry} {es : List Entry}

theorem get?_eq_find? (h : r.Holds es) (key : String) : r.known.get? key = es.find? fun e => key == e.key := by
  rw [EntryMap.get?, h.known]
  clear h
  induction es with
  | nil => rfl
  | cons e es ih => rw [List.map_cons, List.lookup_cons, List.find?_cons, ih]

theorem get?_eq_none_iff (h : r.Holds es) {key : String} : r.known.get? key = none ↔ key ∉ r.order := by
  rw [h.get?_eq_find?, h.order, List.find?_eq_none]
  simp only [beq_iff_eq, List.mem_map, not_exists, not_and]
  exact forall₂_congr fun e _ => not_congr eq_comm

theorem get?_key (h : r.Holds es) {e : Entry} (he : e ∈ es) : r.known.get? e.key = some e := by
  rw [h.get?_eq_find?]
  have hsome : (es.find? fun e' => e.key == e'.key).isSome := List.find?_isSome.2 ⟨e, he, beq_self_eq_true e.key⟩
  obtain ⟨e', hfound⟩ := Option.isSome_iff_exists.1 hsome
  have hkey : e.key = e'.key := by simpa using List.find?_some hfound
  rw [hfound, List.inj_on_of_nodup_map h.nodup he (List.mem_of_find?_eq_some hfound) hkey]

theorem entries_eq (h : r.Holds es) : r.entries = es := by
  rw [entries, h.order, List.filterMap_map]
  exact (List.filterMap_congr fun e he => h.get?_key he).trans List.filterMap_some

theorem add (h : r.Holds es) {e : Entry} (hnew : r.known.get? e.key = none) :
    Holds ⟨r.known.set e.key e, r.order ++ [e.key]⟩ (es ++ [e]) := by
  have hset : r.known.set e.key e = ⟨r.known.pairs ++ [(e.key, e)]⟩ := by simp [EntryMap.set, hnew]
  have hkey : e.key ∉ es.map (·.key) := h.order ▸ h.get?_eq_none_iff.1 hnew
  refine ⟨?_, ?_, ?_⟩
  · rw [hset, h.known, List.map_append]
    rfl
  · rw [h.order, List.map_append]
    rfl
  · rw [List.map_append, List.map_singleton, ← List.concat_eq_append]
    exact h.nodup.concat hkey

end Holds

theorem Holds.register {r : Registry} {es : List Entry} (h : r.Holds es) {e : Entry} (hnew : e.key ∉ es.map (·.key)) :
    ∃ r', r.register e = .ok r' ∧ r'.Holds (es ++ [e]) := by
  have hnone : r.known.get? e.key = none := h.get?_eq_none_iff.2 (h.order ▸ hnew)
  refine ⟨_, ?_, h.add hnone⟩
  simp [Registry.register, Registering.result, Registering.outcome_add, hnone]

theorem key_ofCheck (c : Check) : (Entry.ofCheck c).key = c.id := String.ofList_toList

theorem Holds.registerAll {r : Registry} (done cs : List Check) (h : r.Holds (done.map .ofCheck))
    (hnodup : ((done ++ cs).map (·.id)).Nodup) :
    ∃ r', cs.foldlM (fun r c => r.register (.ofCheck c)) r = .ok r' ∧ r'.Holds ((done ++ cs).map .ofCheck) := by
  induction cs generalizing r done with
  | nil => exact ⟨r, rfl, by simpa using h⟩
  | cons c cs ih =>
    have hnew : (Entry.ofCheck c).key ∉ (done.map Entry.ofCheck).map (·.key) := by
      rw [List.map_append, List.map_cons, List.nodup_middle, List.nodup_cons] at hnodup
      simp only [List.map_map, Function.comp_def, key_ofCheck]
      exact fun hmem => hnodup.1 (List.mem_append_left _ hmem)
    obtain ⟨r', hr', hholds⟩ := h.register hnew
    obtain ⟨r'', hr'', hholds'⟩ := ih (done ++ [c]) (by simpa using hholds) (by simpa using hnodup)
    refine ⟨r'', ?_, by simpa using hholds'⟩
    rw [List.foldlM_cons, hr']
    exact hr''

/-- The standard checks have different identifiers, so that none of them is refused. -/
theorem standard_entries : standard.entries = Check.standard.map .ofCheck := by
  obtain ⟨r, hr, hholds⟩ := Holds.registerAll [] Check.standard holds_empty Check.nodup_standard_ids
  rw [standard, hr]
  exact hholds.entries_eq

/-! ### Runs -/

/-- Makes calls one after the other. A refused call ends with a refusal, and the next one is made on the registry
that it leaves. -/
def run (r : Registry) : List RegistryCall → List (Except RegistryError Unit) × Registry
  | [] => ([], r)
  | c :: cs =>
    let first := c.action.outcome r
    let rest := run first.2 cs
    (first.1 :: rest.1, rest.2)

def accepted (calls : List RegistryCall) (outcomes : List (Except RegistryError Unit)) : List Entry :=
  (calls.zip outcomes).filterMap fun x => if x.2.isOk then x.1.candidate? else none

theorem Holds.run {r : Registry} {es : List Entry} (h : r.Holds es) (calls : List RegistryCall) :
    (r.run calls).2.Holds (es ++ accepted calls (r.run calls).1) := by
  induction calls generalizing r es with
  | nil => simpa [accepted, Registry.run] using h
  | cons c cs ih =>
    rcases c.outcome_cases r with ⟨e, hentry, hnew, haction⟩ | ⟨-, refusal, haction⟩
    · have hrest := ih (h.add hnew)
      simpa [Registry.run, haction, accepted, hentry, Except.isOk, Except.toBool] using hrest
    · have hrest := ih h
      simpa [Registry.run, haction, accepted, Except.isOk, Except.toBool] using hrest

/-! ### Choosing entries -/

end Registry

def Entry.HasId (e : Entry) (id : String) : Prop := Fields.get? e.fields "id" = some (.str id)

theorem Entry.HasId.key_eq {e : Entry} {id : String} (h : e.HasId id) : e.key = id := by
  rw [Entry.key, h]
  exact String.ofList_toList

/-- Whether an entry is to be chosen: its identifier is not in `disable`, and it is in `only`; or if that is empty, it
is in `enable` or the entry is on by default. -/
def Entry.Wanted (only enable disable : List String) (e : Entry) : Prop :=
  ∃ id, e.HasId id ∧ id ∉ disable ∧
    if only = [] then id ∈ enable ∨ Fields.get? e.fields "default_enabled" = some (.bool true) else id ∈ only

theorem Entry.isDefault_iff (e : Entry) :
    e.isDefault = true ↔ Fields.get? e.fields "default_enabled" = some (.bool true) := by
  unfold Entry.isDefault
  split <;> simp_all

namespace Registry

variable {r : Registry} {es : List Entry}

theorem mapM_eq_ok {α β ε : Type} {f : α → Except ε β} {g : α → β} {l : List α} (h : ∀ a ∈ l, f a = .ok (g a)) :
    l.mapM f = .ok (l.map g) := by
  induction l with
  | nil => rfl
  | cons a l ih =>
    rw [List.mapM_cons, h a List.mem_cons_self, ih fun b hb => h b (List.mem_cons_of_mem a hb)]
    rfl

theorem Holds.defaults_eq (h : r.Holds es) (hids : ∀ e ∈ es, ∃ id, e.HasId id) :
    r.defaults = .ok ((es.filter (·.isDefault)).map fun e => .str e.key) := by
  rw [defaults, h.entries_eq]
  refine mapM_eq_ok fun e he => ?_
  obtain ⟨id, hid⟩ := hids e (List.mem_filter.1 he).1
  rw [hid.key_eq, hid]

theorem Holds.filterMap_order (h : r.Holds es) (p : String → Bool) :
    (r.order.filter p).filterMap r.known.get? = es.filter fun e => p e.key := by
  rw [h.order, List.filter_map, List.filterMap_map]
  exact (List.filterMap_congr fun e he => h.get?_key (List.mem_filter.1 he).1).trans List.filterMap_some

theorem Holds.resolve_eq (h : r.Holds es) (hids : ∀ e ∈ es, ∃ id, e.HasId id) (only enable disable : List String) :
    ∃ wanted : Entry → Bool, r.resolve only enable disable = .ok (es.filter wanted) ∧
      ∀ e ∈ es, wanted e = true ↔ e.Wanted only enable disable := by
  -- for an entry with a text for its identifier, the key is the identifier
  have hwanted {e : Entry} (he : e ∈ es) : e.Wanted only enable disable ↔ e.key ∉ disable ∧
      if only = [] then e.key ∈ enable ∨ e.isDefault = true else e.key ∈ only := by
    obtain ⟨id, hid⟩ := hids e he
    rw [Entry.isDefault_iff, hid.key_eq]
    constructor
    · rintro ⟨id', hid', hrest⟩
      rwa [← hid'.key_eq, hid.key_eq] at hrest
    · exact fun hrest => ⟨id, hid, hrest⟩
  have hdefault {e : Entry} (he : e ∈ es) : e.key ∈ (es.filter (·.isDefault)).map (·.key) ↔ e.isDefault = true := by
    constructor
    · intro hmem
      obtain ⟨e', he', hkey⟩ := List.mem_map.1 hmem
      obtain ⟨he', hisDefault⟩ := List.mem_filter.1 he'
      rwa [List.inj_on_of_nodup_map h.nodup he' he hkey] at hisDefault
    · exact fun hisDefault => List.mem_map_of_mem (List.mem_filter.2 ⟨he, hisDefault⟩)
  rw [resolve]
  cases only with
  | nil =>
    rw [h.defaults_eq hids]
    refine ⟨_, congrArg Except.ok (h.filterMap_order _), fun e he => ?_⟩
    have hstr : ((es.filter (·.isDefault)).map fun e => Value.str e.key).filterMap Value.str? =
        (es.filter (·.isDefault)).map (·.key) := by
      rw [List.filterMap_map]
      exact congrFun List.filterMap_eq_map (es.filter (·.isDefault))
    rw [hwanted he, hstr, ← hdefault he, if_pos rfl, or_comm, List.contains_iff_mem, List.mem_filter,
      List.mem_append, and_comm]
    simp
  | cons id only =>
    refine ⟨_, congrArg Except.ok (h.filterMap_order _), fun e he => ?_⟩
    rw [hwanted he]
    simp [and_comm]

/-- After every sequence of calls, refused ones among them, the list of keys has no duplicates and holds the keys of
the map, the entries are those of the accepted calls in order, and a further call is accepted just if it is about an
entry with a new key, and changes nothing if it is refused. If all identifiers are texts, the chosen entries are
those that are wanted, in order and each once. -/
theorem run_consistent (calls : List RegistryCall) :
    let r := (run {} calls).2
    r.order.Nodup ∧ (∀ key, key ∈ r.order ↔ key ∈ r.known.keys) ∧
      r.entries = accepted calls (run {} calls).1 ∧
      (∀ c : RegistryCall,
        ((c.action.outcome r).1.isOk = true ↔ ∃ e, c.candidate? = some e ∧ e.key ∉ r.order) ∧
          ((c.action.outcome r).1.isOk = false → (c.action.outcome r).2 = r)) ∧
      ((∀ e ∈ r.entries, ∃ id, e.HasId id) → ∀ only enable disable, ∃ chosen,
        r.resolve only enable disable = .ok chosen ∧ chosen.Sublist r.entries ∧ chosen.Nodup ∧
          ∀ e, e ∈ chosen ↔ e ∈ r.entries ∧ e.Wanted only enable disable) := by
  intro r
  have hholds : r.Holds (accepted calls (run {} calls).1) := by simpa using holds_empty.run calls
  have hentries := hholds.entries_eq
  rw [← hentries] at hholds
  refine ⟨hholds.order ▸ hholds.nodup, fun key => ?_, hentries, fun c => ?_, fun hids only enable disable => ?_⟩
  · rw [EntryMap.keys, hholds.known, hholds.order, List.map_map]
    rfl
  · rcases c.outcome_cases r with ⟨e, hentry, hnew, haction⟩ | ⟨hknown, refusal, haction⟩
    · rw [haction]
      refine ⟨iff_of_true rfl ⟨e, hentry, hholds.get?_eq_none_iff.1 hnew⟩, fun h => by cases h⟩
    · rw [haction]
      refine ⟨iff_of_false (by simp [Except.isOk, Except.toBool]) ?_, fun _ => rfl⟩
      rintro ⟨e, hentry, hnew⟩
      exact hknown e hentry (hholds.get?_eq_none_iff.2 hnew)
  · obtain ⟨wanted, hresolve, hwanted⟩ := hholds.resolve_eq hids only enable disable
    refine ⟨_, hresolve, List.filter_sublist, (hholds.nodup.of_map _).filter _, fun e => ?_⟩
    rw [List.mem_filter]
    exact and_congr_right fun he => hwanted e he

/-- Two entries, and between them a duplicate, a path that is no module, a file that is missing and a module without a
name. -/
def sampleCalls : List RegistryCall :=
  [ .register ⟨[("id", .str "first"), ("default_enabled", .bool true)]⟩
  , .register ⟨[("id", .str "first")]⟩
  , .load "second.txt" (.ok [("PLUGIN_ID", .str "second"), ("PLUGIN_NAME", .str "Second"), ("run", .null)])
  , .load "second.py" (.error (.file .missing))
  , .load "second.py" (.ok [("PLUGIN_ID", .str "second")])
  , .load "x/../second.py/" (.ok [("PLUGIN_ID", .str "second"), ("PLUGIN_NAME", .str "Second"), ("run", .null)]) ]

theorem run_consistent_sampleCalls :
    (run {} sampleCalls).1.map (·.isOk) = [true, false, false, false, false, true] ∧
      (run {} sampleCalls).2.order = ["first", "second"] ∧
      ∃ chosen, (run {} sampleCalls).2.resolve [] [] ["first"] = .ok chosen ∧
        ∀ e, e ∈ chosen ↔ e ∈ (run {} sampleCalls).2.entries ∧ e.Wanted [] [] ["first"] := by
  have hids : ∀ e ∈ (run {} sampleCalls).2.entries, ∃ id, e.HasId id := by
    intro e he
    have hentries : (run {} sampleCalls).2.entries =
        [⟨[("id", .str "first"), ("default_enabled", .bool true)]⟩, .ofParts "second" "Second" true] := rfl
    rw [hentries] at he
    rcases List.mem_cons.1 he with rfl | he
    · exact ⟨"first", rfl⟩
    · rw [List.mem_singleton.1 he]
      exact ⟨"second", rfl⟩
  obtain ⟨-, -, -, -, hchoose⟩ := run_consistent sampleCalls
  obtain ⟨chosen, hchosen, -, -, hmem⟩ := hchoose hids [] [] ["first"]
  exact ⟨rfl, rfl, chosen, hchosen, hmem⟩

end Registry

end ProblemLint
