namespace Stageflow

/-- The value under a name in a list of named values, the first one if there are several. -/
def lookup {α : Type} (name : String) : List (String × α) → Option α
  | [] => none
  | entry :: entries => if entry.1 = name then some entry.2 else lookup name entries

/-- Puts a value under a name into a list ordered by name; a value already there is replaced. -/
def insertEntry {α : Type} (name : String) (value : α) : List (String × α) → List (String × α)
  | [] => [(name, value)]
  | entry :: entries =>
    if name < entry.1 then (name, value) :: entry :: entries
    else if name = entry.1 then (name, value) :: entries
    else entry :: insertEntry name value entries

/-- Names in strictly increasing order. Strings are compared by code point, which is also the
    order of their UTF-8 bytes. -/
def Ordered {α : Type} (entries : List (String × α)) : Prop :=
  entries.Pairwise fun a b => a.1 < b.1

private theorem lt_of_ne_of_not_lt {a b : String} (hne : a ≠ b) (hnot : ¬ a < b) : b < a := by
  apply Classical.byContradiction
  intro h
  exact hne (String.le_antisymm (String.not_lt.1 h) (String.not_lt.1 hnot))

theorem mem_insertEntry {α : Type} {name : String} {value : α} {entry : String × α}
    {entries : List (String × α)} (h : entry ∈ insertEntry name value entries) :
    entry = (name, value) ∨ entry ∈ entries := by
  induction entries with
  | nil => simpa [insertEntry] using h
  | cons first rest ih =>
    rw [insertEntry] at h
    split at h
    · simpa using h
    · split at h
      · rcases List.mem_cons.1 h with rfl | h
        · exact .inl rfl
        · exact .inr (List.mem_cons_of_mem _ h)
      · rcases List.mem_cons.1 h with rfl | h
        · exact .inr List.mem_cons_self
        · exact (ih h).imp id (List.mem_cons_of_mem _)

theorem Ordered.insertEntry {α : Type} {name : String} {value : α} {entries : List (String × α)}
    (h : Ordered entries) : Ordered (insertEntry name value entries) := by
  induction entries with
  | nil => simp [Stageflow.insertEntry, Ordered]
  | cons first rest ih =>
    have hrest : Ordered rest := (List.pairwise_cons.1 h).2
    have hfirst := (List.pairwise_cons.1 h).1
    rw [Stageflow.insertEntry]
    split
    next hlt =>
      refine List.pairwise_cons.2 ⟨?_, h⟩
      intro entry hentry
      rcases List.mem_cons.1 hentry with rfl | hentry
      · exact hlt
      · exact String.lt_trans hlt (hfirst entry hentry)
    next hnot =>
      split
      next heq =>
        refine List.pairwise_cons.2 ⟨?_, hrest⟩
        intro entry hentry
        simpa [heq] using hfirst entry hentry
      next hne =>
        refine List.pairwise_cons.2 ⟨?_, ih hrest⟩
        intro entry hentry
        rcases mem_insertEntry hentry with rfl | hentry
        · exact lt_of_ne_of_not_lt hne hnot
        · exact hfirst entry hentry

theorem Ordered.nodup_names {α : Type} {entries : List (String × α)} (h : Ordered entries) :
    (entries.map (·.1)).Nodup := by
  refine List.pairwise_map.2 (h.imp ?_)
  intro a b hlt heq
  rw [heq] at hlt
  exact String.lt_irrefl _ hlt

/-- A finite map from names, kept as a list with its names in strictly increasing order. -/
structure Table (α : Type) where
  entries : List (String × α)
  ordered : Ordered entries
  deriving DecidableEq, Repr

namespace Table

variable {α : Type}

def empty : Table α :=
  ⟨[], .nil⟩

instance : Inhabited (Table α) :=
  ⟨empty⟩

def get? (table : Table α) (name : String) : Option α :=
  lookup name table.entries

def contains (table : Table α) (name : String) : Bool :=
  (table.get? name).isSome

/-- Puts a value under a name and drops the one that was there. -/
def insert (table : Table α) (name : String) (value : α) : Table α :=
  ⟨insertEntry name value table.entries, table.ordered.insertEntry⟩

def filter (table : Table α) (p : String → Bool) : Table α :=
  ⟨table.entries.filter fun entry => p entry.1, table.ordered.filter _⟩

def map {β : Type} (table : Table α) (f : α → β) : Table β :=
  ⟨table.entries.map fun entry => (entry.1, f entry.2), by
    simpa only [Ordered, List.pairwise_map] using table.ordered⟩

def erase (table : Table α) (name : String) : Table α :=
  table.filter (· != name)

/-- The names, in increasing order. -/
def names (table : Table α) : List String :=
  table.entries.map (·.1)

def size (table : Table α) : Nat :=
  table.entries.length

/-- Inserts named values one after the other, so that of two with one name the later remains. -/
def ofList (entries : List (String × α)) : Table α :=
  entries.foldl (fun table entry => table.insert entry.1 entry.2) empty

end Table

theorem lookup_insertEntry_self {α : Type} (name : String) (value : α)
    (entries : List (String × α)) : lookup name (insertEntry name value entries) = some value := by
  induction entries with
  | nil => simp [insertEntry, lookup]
  | cons first rest ih =>
    rw [insertEntry]
    split
    · simp [lookup]
    · split
      · simp [lookup]
      next hne => simp [lookup, Ne.symm hne, ih]

theorem lookup_insertEntry_of_ne {α : Type} {name other : String} (h : other ≠ name) (value : α)
    (entries : List (String × α)) :
    lookup other (insertEntry name value entries) = lookup other entries := by
  induction entries with
  | nil => simp [insertEntry, lookup, Ne.symm h]
  | cons first rest ih =>
    rw [insertEntry]
    split
    · simp [lookup, Ne.symm h]
    · split
      next heq => simp [lookup, ← heq, Ne.symm h]
      · simp [lookup, ih]

theorem lookup_filter_ne {α : Type} (name other : String) (entries : List (String × α)) :
    lookup other (entries.filter fun entry => entry.1 != name) =
      if other = name then none else lookup other entries := by
  induction entries with
  | nil => simp [lookup]
  | cons first rest ih =>
    rw [List.filter_cons]
    by_cases hother : other = name
    · subst hother
      by_cases hfirst : first.1 = other <;> simp_all [lookup]
    · by_cases hfirst : first.1 = name <;> simp_all [lookup, Ne.symm hother]

theorem lookup_map {α β : Type} (f : String → α → β) (name : String)
    (entries : List (String × α)) :
    lookup name (entries.map fun entry => (entry.1, f entry.1 entry.2)) =
      (lookup name entries).map (f name) := by
  induction entries with
  | nil => rfl
  | cons first rest ih =>
    by_cases h : first.1 = name
    · simp [lookup, h]
    · simp [lookup, h, ih]

theorem lookup_isSome_iff {α : Type} {name : String} {entries : List (String × α)} :
    (lookup name entries).isSome = true ↔ name ∈ entries.map (·.1) := by
  induction entries with
  | nil => simp [lookup]
  | cons first rest ih =>
    by_cases h : first.1 = name
    · simp [lookup, h]
    · simp [lookup, h, ih, Ne.symm h]

namespace Table

variable {α : Type}

theorem get?_empty (name : String) : (empty : Table α).get? name = none :=
  rfl

theorem get?_insert (table : Table α) (name other : String) (value : α) :
    (table.insert name value).get? other = if other = name then some value else table.get? other := by
  by_cases h : other = name
  · simp [get?, insert, h, lookup_insertEntry_self]
  · simp [get?, insert, h, lookup_insertEntry_of_ne h]

theorem get?_erase (table : Table α) (name other : String) :
    (table.erase name).get? other = if other = name then none else table.get? other :=
  lookup_filter_ne name other table.entries

theorem contains_iff_mem_names {table : Table α} {name : String} :
    table.contains name = true ↔ name ∈ table.names :=
  lookup_isSome_iff

end Table

end Stageflow
