import Stageflow.Handler.Program
import Stageflow.Handler.Value
import Stageflow.Placeholder
import Stageflow.Proofs.Pipeline.Document
import Stageflow.Proofs.Text.ByteOrder

namespace Stageflow

open Json (Document)

/-! Entries that are put one after the other into a list in order. -/

/-- A new name makes one entry more. -/
theorem insertEntry_perm {α : Type} {name : String} {entries : List (String × α)}
    (h : name ∉ entries.map (·.1)) (value : α) :
    (insertEntry name value entries).Perm ((name, value) :: entries) := by
  induction entries with
  | nil => rfl
  | cons first rest ih =>
    rw [List.map_cons, List.mem_cons, not_or] at h
    rw [insertEntry]
    split
    next => rfl
    next =>
      rw [if_neg h.1]
      exact ((ih h.2).cons first).trans (.swap (name, value) first rest)

theorem insertEntry_map {α β : Type} (f : α → β) (name : String) (value : α)
    (entries : List (String × α)) :
    insertEntry name (f value) (entries.map fun entry => (entry.1, f entry.2)) =
      (insertEntry name value entries).map fun entry => (entry.1, f entry.2) := by
  induction entries with
  | nil => rfl
  | cons first rest ih =>
    rw [List.map_cons, insertEntry, insertEntry, ih]
    dsimp only
    split
    · rfl
    · split <;> rfl

/-- Entries put one after the other into a list in order. -/
def sortEntries {α : Type} (sorted entries : List (String × α)) : List (String × α) :=
  entries.foldl (fun sorted entry => insertEntry entry.1 entry.2 sorted) sorted

theorem Ordered.sortEntries {α : Type} {sorted : List (String × α)} (h : Ordered sorted)
    (entries : List (String × α)) : Ordered (sortEntries sorted entries) := by
  induction entries generalizing sorted with
  | nil => exact h
  | cons entry entries ih => exact ih h.insertEntry

theorem sortEntries_perm {α : Type} {sorted entries : List (String × α)}
    (h : ((sorted ++ entries).map (·.1)).Nodup) :
    (sortEntries sorted entries).Perm (sorted ++ entries) := by
  induction entries generalizing sorted with
  | nil => simp [sortEntries]
  | cons entry entries ih =>
    have hmiddle : (sorted ++ entry :: entries).Perm (entry :: sorted ++ entries) :=
      List.perm_middle
    have hnodup : ((entry :: sorted ++ entries).map (·.1)).Nodup :=
      (hmiddle.map (·.1)).nodup_iff.1 h
    have hnew : entry.1 ∉ sorted.map (·.1) := by
      intro hmem
      rw [List.cons_append, List.map_cons, List.nodup_cons, List.map_append] at hnodup
      exact hnodup.1 (List.mem_append_left _ hmem)
    have hinsert := (insertEntry_perm hnew entry.2).append_right entries
    have hrest : ((insertEntry entry.1 entry.2 sorted ++ entries).map (·.1)).Nodup :=
      (hinsert.map (·.1)).nodup_iff.2 hnodup
    exact (ih hrest).trans (hinsert.trans hmiddle.symm)

theorem sortEntries_map {α β : Type} (f : α → β) (sorted entries : List (String × α)) :
    entries.foldl (fun members entry => insertEntry entry.1 (f entry.2) members)
        (sorted.map fun entry => (entry.1, f entry.2)) =
      (sortEntries sorted entries).map fun entry => (entry.1, f entry.2) := by
  induction entries generalizing sorted with
  | nil => rfl
  | cons entry entries ih =>
    rw [List.foldl_cons, insertEntry_map, ih]
    rfl

/-! Looking a name up finds its first value, and in reverse order its last one. -/

theorem lookup_eq_some_iff_append {α : Type} {name : String} {value : α}
    {entries : List (String × α)} :
    lookup name entries = some value ↔
      ∃ before after, entries = before ++ (name, value) :: after ∧ name ∉ before.map (·.1) := by
  constructor
  · intro h
    induction entries with
    | nil => cases h
    | cons first rest ih =>
      rw [lookup] at h
      split at h
      next hname =>
        have hfirst : first = (name, value) := Prod.ext hname (Option.some.inj h)
        exact ⟨[], rest, by rw [hfirst, List.nil_append], by simp⟩
      next hname =>
        obtain ⟨before, after, rfl, hbefore⟩ := ih h
        exact ⟨first :: before, after, rfl, by simpa [Ne.symm hname] using hbefore⟩
  · rintro ⟨before, after, rfl, hbefore⟩
    induction before with
    | nil => simp [lookup]
    | cons first before ih =>
      rw [List.map_cons, List.mem_cons, not_or] at hbefore
      rw [List.cons_append, lookup, if_neg (Ne.symm hbefore.1)]
      exact ih hbefore.2

theorem lookup_reverse_eq_some_iff {α : Type} {name : String} {value : α}
    {entries : List (String × α)} :
    lookup name entries.reverse = some value ↔
      ∃ before after, entries = before ++ (name, value) :: after ∧ name ∉ after.map (·.1) := by
  rw [lookup_eq_some_iff_append]
  constructor
  · rintro ⟨before, after, hentries, hbefore⟩
    refine ⟨after.reverse, before.reverse, ?_, by simpa using hbefore⟩
    simpa using congrArg List.reverse hentries
  · rintro ⟨before, after, rfl, hafter⟩
    exact ⟨after.reverse, before.reverse, by simp, by simpa using hafter⟩

namespace Options

/-- The last time that a name is set, it is set to the value. -/
def LastSet (settings : List (String × OptionValue)) (name : String) (value : OptionValue) :
    Prop :=
  ∃ before after, settings = before ++ (name, value) :: after ∧ name ∉ after.map (·.1)

/-- Reads options from JSON text. -/
def ofJsonText? (text : String) : Option Options :=
  (Document.parse? text).bind ofDocument?

/-- All views of options show the same names and values. -/
structure Consistent (options : Options) : Prop where
  get?_iff : ∀ name value, options.get? name = some value ↔ (name, value) ∈ options.entries
  contains_iff : ∀ name, options.contains name = true ↔ name ∈ options.entries.map (·.1)
  size_eq : options.size = options.entries.length
  /-- The JSON object has the same names, with texts as strings and flags as booleans. -/
  toJson : ∃ members, options.toJson = .object members ∧
    members.Pairwise (fun a b => Text.encode a.1.toList < Text.encode b.1.toList) ∧
    ∀ name json, (name, json) ∈ members ↔
      (∃ text, (name, .text text) ∈ options.entries ∧ json = .string text) ∨
        ∃ flag, (name, .flag flag) ∈ options.entries ∧ json = .bool flag
  /-- The text of the object is read as the same options in the order of their names. -/
  readBack : ∃ sorted, ofJsonText? options.toJson.compact = some sorted ∧
    sorted.entries.Perm options.entries ∧
    sorted.entries.Pairwise fun a b => Text.encode a.1.toList < Text.encode b.1.toList
  /-- A declared program that takes its options as JSON is given this text. -/
  input : ∀ spec path, spec.input = .json →
    (CommandSpec.invocation spec path options).input = Text.encode options.toJson.compact.toList
  /-- The text also stands for the output of a stage that returns all its options. -/
  echoed : options.text? "text" = none → ∀ {σ : Type} (s : σ), ∃ output,
    Handler.echo.invoke options s = (.ok output, s) ∧ output.insertionText = options.toJson.compact

/-- The same options in the order of their names. -/
def sorted (options : Options) : Options :=
  have hordered : Ordered (sortEntries [] options.entries) := Ordered.sortEntries .nil _
  ⟨sortEntries [] options.entries, hordered.nodup_names⟩

theorem ordered_sorted (options : Options) : Ordered options.sorted.entries :=
  Ordered.sortEntries .nil _

theorem sorted_perm (options : Options) : options.sorted.entries.Perm options.entries := by
  change (sortEntries [] options.entries).Perm ([] ++ options.entries)
  exact sortEntries_perm options.nodup

theorem toJson_eq (options : Options) :
    options.toJson =
      .object (options.sorted.entries.map fun entry => (entry.1, entry.2.toJson)) :=
  congrArg Json.object (sortEntries_map OptionValue.toJson [] options.entries)

/-- As JSON, options are written as those in the order of their names are. -/
theorem toDocument_toJson (options : Options) :
    options.toJson.toDocument = options.sorted.toDocument := by
  have hvalue (value : OptionValue) : value.toJson.toDocument = value.toDocument := by
    cases value <;> rfl
  rw [toJson_eq, Json.toDocument, Json.membersToDocument_eq, List.map_map, toDocument]
  simp only [Function.comp_def, hvalue]

theorem ofJsonText?_toJson (options : Options) :
    ofJsonText? options.toJson.compact = some options.sorted := by
  rw [Json.compact, toDocument_toJson, ofJsonText?, options.sorted.exact_toDocument.parse?_compact,
    Option.bind_some, ofDocument?_toDocument]

theorem Merges.mem_entries_iff {options : Options} {settings : List (String × OptionValue)}
    (h : options.Merges settings) {name : String} {value : OptionValue} :
    (name, value) ∈ options.entries ↔ LastSet settings name value := by
  rw [← lookup_eq_some_iff_mem options.nodup]
  unfold LastSet
  rw [← lookup_reverse_eq_some_iff, ← h.get? name]
  rfl

/-- A text becomes a string and a flag a boolean. -/
private theorem mem_map_toJson_iff {entries : List (String × OptionValue)} {name : String}
    {json : Json} :
    (name, json) ∈ entries.map (fun entry => (entry.1, entry.2.toJson)) ↔
      (∃ text, (name, .text text) ∈ entries ∧ json = .string text) ∨
        ∃ flag, (name, .flag flag) ∈ entries ∧ json = .bool flag := by
  simp only [List.mem_map, Prod.mk.injEq]
  constructor
  · rintro ⟨⟨_, text | flag⟩, hentry, rfl, rfl⟩
    · exact .inl ⟨text, hentry, rfl⟩
    · exact .inr ⟨flag, hentry, rfl⟩
  · rintro (⟨text, hentry, rfl⟩ | ⟨flag, hentry, rfl⟩)
    · exact ⟨(name, .text text), hentry, rfl, rfl⟩
    · exact ⟨(name, .flag flag), hentry, rfl, rfl⟩

theorem consistent (options : Options) : options.Consistent := by
  have hbytes : options.sorted.entries.Pairwise fun a b =>
      Text.encode a.1.toList < Text.encode b.1.toList :=
    options.ordered_sorted.imp Text.encode_lt_encode_iff.2
  constructor
  case get?_iff => exact fun _ _ => lookup_eq_some_iff_mem options.nodup
  case contains_iff => exact fun _ => lookup_isSome_iff
  case size_eq => rfl
  case toJson =>
    refine ⟨_, options.toJson_eq, List.pairwise_map.2 hbytes, ?_⟩
    intro name json
    simp only [mem_map_toJson_iff, options.sorted_perm.mem_iff]
  case readBack =>
    exact ⟨options.sorted, options.ofJsonText?_toJson, options.sorted_perm, hbytes⟩
  case input =>
    intro spec path hinput
    simp only [CommandSpec.invocation, hinput]
  case echoed =>
    intro htext σ s
    refine ⟨options.toJson, ?_, rfl⟩
    simp only [Handler.echo, Handler.pure, htext]

/-- Options that are set one after the other are listed once each, in the order in which they are
    first set and with the value that they are set to last, and all views of them agree. -/
theorem ofList_exact (settings : List (String × OptionValue)) :
    (ofList settings).entries.map (·.1) = (settings.map (·.1)).eraseDups ∧
    (∀ name value, (name, value) ∈ (ofList settings).entries ↔ LastSet settings name value) ∧
    (ofList settings).Consistent :=
  ⟨(merges_ofList settings).names, fun _ _ => (merges_ofList settings).mem_entries_iff,
    consistent _⟩

/-- The names `b` and `a` are written in this order, and the other way round as JSON. -/
example : (ofList [("b", .flag true), ("a", .text "1"), ("b", .text "2")]).entries =
      [("b", .text "2"), ("a", .text "1")] ∧
    (sorted (ofList [("b", .text "2"), ("a", .text "1")])).entries =
      [("a", .text "1"), ("b", .text "2")] := by
  decide

end Options

end Stageflow
