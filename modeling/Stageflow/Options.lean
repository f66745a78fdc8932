import Stageflow.Json.Basic
import Stageflow.Table

namespace Stageflow

/-- What an option holds: a text, or only a yes or no. -/
inductive OptionValue where
  | text (value : String)
  | flag (value : Bool)
  deriving DecidableEq, Repr, Inhabited

namespace OptionValue

def text? : OptionValue → Option String
  | .text s => some s
  | .flag _ => none

/-- Reads `true`, `yes` and `1`, or `false`, `no` and `0`, in any mixture of cases. No character
    outside ASCII has one of their letters as its lower case, so that ASCII's cases suffice. -/
def bool? : OptionValue → Option Bool
  | .flag b => some b
  | .text s =>
    let lower := s.map Char.toLower
    if lower = "true" ∨ lower = "yes" ∨ lower = "1" then some true
    else if lower = "false" ∨ lower = "no" ∨ lower = "0" then some false
    else none

/-- The value as it is shown to a reader. -/
def display : OptionValue → String
  | .text s => s
  | .flag true => "true"
  | .flag false => "false"

def toJson : OptionValue → Json
  | .text s => .string s
  | .flag b => .bool b

end OptionValue

/-- What a handler says when it fails. -/
structure HandlerError where
  message : String
  help : Option String
  deriving DecidableEq, Repr, Inhabited

def HandlerError.missingOption (name : String) : HandlerError :=
  ⟨s!"missing required option --{name}", some s!"Pass it as `--{name} <value>`"⟩

/-- Puts a value under a name: in the place of the name if it is there, behind all others if not. -/
def putEntry {α : Type} (name : String) (value : α) : List (String × α) → List (String × α)
  | [] => [(name, value)]
  | entry :: entries =>
    if entry.1 = name then (name, value) :: entries else entry :: putEntry name value entries

theorem mem_names_putEntry {α : Type} {name other : String} {value : α}
    {entries : List (String × α)} :
    other ∈ (putEntry name value entries).map (·.1) ↔ other = name ∨ other ∈ entries.map (·.1) := by
  induction entries with
  | nil => simp [putEntry]
  | cons first rest ih =>
    rw [putEntry]
    split
    next h => simp [← h]
    next h =>
      rw [List.map_cons, List.mem_cons, ih, List.map_cons, List.mem_cons]
      constructor
      · rintro (h | h | h)
        · exact .inr (.inl h)
        · exact .inl h
        · exact .inr (.inr h)
      · rintro (h | h | h)
        · exact .inr (.inl h)
        · exact .inl h
        · exact .inr (.inr h)

theorem nodup_names_putEntry {α : Type} {name : String} {value : α} {entries : List (String × α)}
    (h : (entries.map (·.1)).Nodup) : ((putEntry name value entries).map (·.1)).Nodup := by
  induction entries with
  | nil => simp [putEntry]
  | cons first rest ih =>
    rw [List.map_cons, List.nodup_cons] at h
    rw [putEntry]
    split
    next heq => simpa [← heq] using h
    next hne =>
      rw [List.map_cons, List.nodup_cons]
      refine ⟨?_, ih h.2⟩
      rw [mem_names_putEntry]
      exact fun hor => hor.elim hne h.1

theorem lookup_putEntry {α : Type} (name other : String) (value : α)
    (entries : List (String × α)) :
    lookup other (putEntry name value entries) =
      if other = name then some value else lookup other entries := by
  induction entries with
  | nil =>
    by_cases h : other = name
    · simp [putEntry, lookup, h]
    · simp [putEntry, lookup, h, Ne.symm h]
  | cons first rest ih =>
    rw [putEntry]
    split
    next heq =>
      by_cases h : other = name
      · simp [lookup, h]
      · simp [lookup, heq, Ne.symm h, h]
    next hne =>
      by_cases h : first.1 = other
      · have : other ≠ name := by rintro rfl; exact hne h
        simp [lookup, h, this]
      · simp [lookup, h, ih]

/-- The options of a stage, each name once, in the order in which the names were first written. -/
structure Options where
  entries : List (String × OptionValue)
  nodup : (entries.map (·.1)).Nodup
  deriving DecidableEq, Repr

namespace Options

def empty : Options :=
  ⟨[], .nil⟩

instance : Inhabited Options :=
  ⟨empty⟩

/-- Sets an option. A name that is set again keeps its place. -/
def insert (options : Options) (name : String) (value : OptionValue) : Options :=
  ⟨putEntry name value options.entries, nodup_names_putEntry options.nodup⟩

/-- Sets options one after the other. -/
def ofList (entries : List (String × OptionValue)) : Options :=
  entries.foldl (fun options entry => options.insert entry.1 entry.2) empty

def get? (options : Options) (name : String) : Option OptionValue :=
  lookup name options.entries

/-- The text of an option; a flag has none. -/
def text? (options : Options) (name : String) : Option String :=
  (options.get? name).bind OptionValue.text?

/-- Whether an option says yes; without the option the answer is no. -/
def flag (options : Options) (name : String) : Bool :=
  ((options.get? name).bind OptionValue.bool?).getD false

def requireText (options : Options) (name : String) : Except HandlerError String :=
  match options.text? name with
  | some s => .ok s
  | none => .error (.missingOption name)

def contains (options : Options) (name : String) : Bool :=
  (options.get? name).isSome

def size (options : Options) : Nat :=
  options.entries.length

/-- The options as a JSON object, its members ordered by name. -/
def toJson (options : Options) : Json :=
  .object (options.entries.foldl (fun members entry => insertEntry entry.1 entry.2.toJson members) [])

theorem get?_insert (options : Options) (name other : String) (value : OptionValue) :
    (options.insert name value).get? other =
      if other = name then some value else options.get? other :=
  lookup_putEntry name other value options.entries

end Options

end Stageflow
