import Stageflow.Options

namespace Stageflow

theorem mem_of_lookup {α : Type} {entries : List (String × α)} {name : String} {value : α}
    (h : lookup name entries = some value) : (name, value) ∈ entries := by
  induction entries with
  | nil => cases h
  | cons first rest ih =>
    rw [lookup] at h
    split at h
    next hname =>
      rw [← hname, ← Option.some.inj h]
      exact List.mem_cons_self
    · exact List.mem_cons_of_mem _ (ih h)

theorem lookup_of_mem {α : Type} {entries : List (String × α)}
    (hnodup : (entries.map (·.1)).Nodup) {name : String} {value : α}
    (h : (name, value) ∈ entries) : lookup name entries = some value := by
  induction entries with
  | nil => cases h
  | cons first rest ih =>
    rw [List.map_cons, List.nodup_cons] at hnodup
    rcases List.mem_cons.1 h with rfl | hrest
    · rw [lookup, if_pos rfl]
    · have hname : first.1 ≠ name := by
        intro heq
        rw [heq] at hnodup
        exact hnodup.1 (List.mem_map_of_mem (f := (·.1)) hrest)
      rw [lookup, if_neg hname]
      exact ih hnodup.2 hrest

/-- Where each name occurs once, finding a value is the same as holding the entry. -/
theorem lookup_eq_some_iff_mem {α : Type} {entries : List (String × α)}
    (hnodup : (entries.map (·.1)).Nodup) {name : String} {value : α} :
    lookup name entries = some value ↔ (name, value) ∈ entries :=
  ⟨mem_of_lookup, lookup_of_mem hnodup⟩

theorem lookup_reverse {α : Type} {entries : List (String × α)}
    (hnodup : (entries.map (·.1)).Nodup) (name : String) :
    lookup name entries.reverse = lookup name entries := by
  apply Option.ext
  intro value
  have hreverse : (entries.reverse.map (·.1)).Nodup := by
    rw [List.map_reverse]
    exact List.pairwise_reverse.2 (hnodup.imp Ne.symm)
  rw [lookup_eq_some_iff_mem hreverse, lookup_eq_some_iff_mem hnodup, List.mem_reverse]

/-- Entries are determined by their names, in order, and what lookups find. -/
theorem entries_ext {α : Type} {entries others : List (String × α)}
    (hnames : entries.map (·.1) = others.map (·.1)) (hnodup : (entries.map (·.1)).Nodup)
    (hlookup : ∀ name, lookup name entries = lookup name others) : entries = others := by
  induction entries generalizing others with
  | nil => exact (List.map_eq_nil_iff.1 hnames.symm).symm
  | cons first rest ih =>
    cases others with
    | nil => cases hnames
    | cons other others =>
      rw [List.map_cons, List.map_cons] at hnames
      obtain ⟨hname, hrest⟩ := List.cons.inj hnames
      rw [List.map_cons, List.nodup_cons] at hnodup
      have hvalue := hlookup first.1
      rw [lookup, lookup, if_pos rfl, if_pos hname.symm] at hvalue
      have hfirst : first = other := Prod.ext hname (Option.some.inj hvalue)
      rw [hfirst, ih hrest hnodup.2]
      intro name
      by_cases hother : other.1 = name
      · have hmissing : ∀ list : List (String × α), name ∉ list.map (·.1) →
            lookup name list = none := by
          intro list hnot
          rw [← Option.not_isSome_iff_eq_none, lookup_isSome_iff]
          exact hnot
        rw [← hother, ← hname] at hmissing ⊢
        rw [hmissing rest hnodup.1, hmissing others (hrest ▸ hnodup.1)]
      · have h := hlookup name
        rwa [lookup, lookup, if_neg hother, if_neg (hname ▸ hother)] at h

theorem names_putEntry {α : Type} (name : String) (value : α) (entries : List (String × α)) :
    (putEntry name value entries).map (·.1) =
      if name ∈ entries.map (·.1) then entries.map (·.1) else entries.map (·.1) ++ [name] := by
  induction entries with
  | nil => rfl
  | cons first rest ih =>
    rw [putEntry]
    split
    next hname => simp [hname]
    next hname =>
      rw [List.map_cons, ih]
      by_cases hmem : name ∈ rest.map (·.1)
      · simp only [List.map_cons, List.mem_cons, hmem, or_true, if_true]
      · simp only [List.map_cons, List.mem_cons, hmem, Ne.symm hname, or_false, if_false,
          List.cons_append]

theorem eraseDups_concat (names : List String) (name : String) :
    (names ++ [name]).eraseDups =
      if name ∈ names then names.eraseDups else names.eraseDups ++ [name] := by
  rw [List.eraseDups_append]
  by_cases h : name ∈ names
  · simp [List.removeAll, h]
  · simp [List.removeAll, h, List.eraseDups_cons]

theorem eraseDups_of_nodup {names : List String} (h : names.Nodup) : names.eraseDups = names := by
  induction names with
  | nil => rfl
  | cons name names ih =>
    rw [List.nodup_cons] at h
    have hfilter : names.filter (fun other => !other == name) = names := by
      rw [List.filter_eq_self]
      intro other hother
      simpa using ne_of_mem_of_not_mem hother h.1
    rw [List.eraseDups_cons, hfilter, ih h.2]

namespace Options

/-- Options hold what is left of entries that are set one after the other: each name once, in the
    place of its first entry, with the value of its last. -/
structure Merges (options : Options) (entries : List (String × OptionValue)) : Prop where
  names : options.entries.map (·.1) = (entries.map (·.1)).eraseDups
  get? : ∀ name, options.get? name = lookup name entries.reverse

theorem Merges.empty : Options.empty.Merges [] :=
  ⟨rfl, fun _ => rfl⟩

theorem Merges.insert {options : Options} {entries : List (String × OptionValue)}
    (h : options.Merges entries) (name : String) (value : OptionValue) :
    (options.insert name value).Merges (entries ++ [(name, value)]) := by
  constructor
  · rw [Options.insert, names_putEntry, h.names, List.map_append, List.map_singleton,
      eraseDups_concat]
    simp only [List.mem_eraseDups]
  · intro other
    rw [get?_insert, h.get?, List.reverse_append, List.reverse_singleton, List.singleton_append,
      lookup]
    simp only [eq_comm]

private theorem merges_foldl {options : Options} {before : List (String × OptionValue)}
    (h : options.Merges before) (entries : List (String × OptionValue)) :
    (entries.foldl (fun options entry => options.insert entry.1 entry.2) options).Merges
      (before ++ entries) := by
  induction entries generalizing options before with
  | nil => simpa using h
  | cons entry entries ih => simpa using ih (h.insert entry.1 entry.2)

theorem merges_ofList (entries : List (String × OptionValue)) :
    (ofList entries).Merges entries :=
  merges_foldl .empty entries

theorem merges_self (options : Options) : options.Merges options.entries := by
  constructor
  · exact (eraseDups_of_nodup options.nodup).symm
  · intro name
    exact (lookup_reverse options.nodup name).symm

/-- Whatever is left was an entry. -/
theorem Merges.mem_entries {options : Options} {entries : List (String × OptionValue)}
    (h : options.Merges entries) {entry : String × OptionValue} (hentry : entry ∈ options.entries) :
    entry ∈ entries := by
  have hfound : options.get? entry.1 = some entry.2 := lookup_of_mem options.nodup hentry
  rw [h.get?] at hfound
  exact List.mem_reverse.1 (mem_of_lookup hfound)

/-- Entries leave only one choice of options. -/
theorem Merges.unique {options others : Options} {entries : List (String × OptionValue)}
    (h : options.Merges entries) (h' : others.Merges entries) : options = others := by
  obtain ⟨list, hnodup⟩ := options
  obtain ⟨list', hnodup'⟩ := others
  have heq : list = list' :=
    entries_ext (h.names.trans h'.names.symm) hnodup fun name =>
      (h.get? name).trans (h'.get? name).symm
  subst heq
  rfl

end Options

end Stageflow
