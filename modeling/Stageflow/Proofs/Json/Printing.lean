import Stageflow.Proofs.Json.Spelling

namespace Stageflow

/-- A name that is greater than all others goes behind them. -/
theorem insertEntry_of_lt {α : Type} {name : String} {entries : List (String × α)}
    (h : ∀ entry ∈ entries, entry.1 < name) (value : α) :
    insertEntry name value entries = entries ++ [(name, value)] := by
  induction entries with
  | nil => rfl
  | cons entry entries ih =>
    obtain ⟨hentry, hentries⟩ := List.forall_mem_cons.1 h
    have hnot : ¬ name < entry.1 := String.lt_asymm hentry
    have hne : name ≠ entry.1 := (String.ne_of_lt hentry).symm
    rw [insertEntry, if_neg hnot, if_neg hne, ih hentries, List.cons_append]

namespace Json

theorem Spaces.nil : Spaces [] := by
  intro c hc
  cases hc

namespace Document

/-- Everything in a document can be written and read back exactly: all its numbers are integers
    that fit 64 bits. -/
inductive Exact : Document → Prop where
  | null : Exact .null
  | bool {b : Bool} : Exact (.bool b)
  | integer {n : Int} (hn : FitsWord n) : Exact (.number (.integer n))
  | string {s : String} : Exact (.string s)
  | array {items : List Document} (hitems : ∀ item ∈ items, item.Exact) : Exact (.array items)
  | object {members : List (String × Document)} (hmembers : ∀ member ∈ members, member.2.Exact) :
      Exact (.object members)

private theorem spaces_blank : Spaces [' '] := by
  simp [Spaces, isSpace]

private theorem spaces_newLine (level : Nat) : Spaces (newLine level) := by
  intro c hc
  rcases List.mem_cons.1 hc with rfl | hc
  · rfl
  · rw [List.eq_of_mem_replicate hc]
    rfl

/-! Items and members that are printed with a comma between two of them and the same spaces in front
    of each. -/

section Separated

variable {print : Document → List Char} {gap behind close : List Char}

private theorem separates_next (hgap : Spaces gap) : Separates false ([','] ++ gap) :=
  @Separates.next [] gap .nil hgap

private theorem spellsItems_separated (text : List Document → List Char) (hgap : Spaces gap)
    (hclose : Spaces close)
    (hlast : ∀ item, text [item] = gap ++ print item)
    (hnext : ∀ item next items,
      text (item :: next :: items) = gap ++ print item ++ ',' :: text (next :: items))
    {first : Bool} {lead : List Char} (hlead : Separates first (lead ++ gap)) {item : Document}
    {items : List Document} (hitems : ∀ item' ∈ item :: items, item'.Spells (print item')) :
    SpellsItems first (item :: items) (lead ++ (text (item :: items) ++ (close ++ [']']))) := by
  obtain ⟨hitem, hrest⟩ := List.forall_mem_cons.1 hitems
  induction items generalizing first lead item with
  | nil =>
    have hspells : SpellsItems first [item] _ := .item hlead hitem (.close hclose)
    simpa only [hlast, List.append_assoc] using hspells
  | cons next items ih =>
    have htail := ih (separates_next hgap) hrest (List.forall_mem_cons.1 hrest).1
      (List.forall_mem_cons.1 hrest).2
    have hspells : SpellsItems first (item :: next :: items) _ := .item hlead hitem htail
    simpa only [hnext, List.append_assoc, List.cons_append, List.nil_append] using hspells

private theorem spellsMembers_separated (text : List (String × Document) → List Char)
    (hgap : Spaces gap) (hbehind : Spaces behind) (hclose : Spaces close)
    (hlast : ∀ name item,
      text [(name, item)] = gap ++ stringText name ++ ':' :: (behind ++ print item))
    (hnext : ∀ name item next members,
      text ((name, item) :: next :: members) =
        gap ++ stringText name ++ ':' :: (behind ++ print item) ++
          ',' :: text (next :: members))
    {first : Bool} {lead : List Char} (hlead : Separates first (lead ++ gap))
    {member : String × Document} {members : List (String × Document)}
    (hmembers : ∀ member' ∈ member :: members, member'.2.Spells (print member'.2)) :
    SpellsMembers first (member :: members)
      (lead ++ (text (member :: members) ++ (close ++ ['\x7d']))) := by
  obtain ⟨hmember, hrest⟩ := List.forall_mem_cons.1 hmembers
  obtain ⟨name, item⟩ := member
  induction members generalizing first lead name item with
  | nil =>
    have hspells : SpellsMembers first [(name, item)] _ :=
      .member hlead .nil hbehind hmember (.close hclose)
    simpa only [hlast, List.append_assoc, List.cons_append, List.nil_append] using hspells
  | cons next members ih =>
    have htail := ih (separates_next hgap) (List.forall_mem_cons.1 hrest).2 next.1 next.2
      hrest (List.forall_mem_cons.1 hrest).1
    have hspells : SpellsMembers first ((name, item) :: next :: members) _ :=
      .member hlead .nil hbehind hmember htail
    simpa only [hnext, List.append_assoc, List.cons_append, List.nil_append] using hspells

end Separated

/-- The text with one item or member a line spells its document. -/
theorem Exact.spells_pretty {doc : Document} (h : doc.Exact) (level : Nat) :
    doc.Spells (doc.prettyChars level) := by
  induction h generalizing level with
  | null => exact .null
  | @bool b =>
    cases b with
    | false => exact .boolFalse
    | true => exact .boolTrue
  | integer hn => exact .integer hn
  | string => exact .string
  | @array items _ ih =>
    cases items with
    | nil => exact .array (@SpellsItems.close true [] .nil)
    | cons item items =>
      have hitems : SpellsItems true (item :: items) ([] ++ _) :=
        spellsItems_separated (prettyItems level) (spaces_newLine (level + 1))
          (spaces_newLine level) (fun _ => rfl) (fun _ _ _ => rfl)
          (.first (spaces_newLine (level + 1))) fun item hitem => ih item hitem (level + 1)
      rw [prettyChars, List.cons_append, List.cons_append, List.append_assoc]
      exact .array hitems
  | @object members _ ih =>
    cases members with
    | nil => exact .object (@SpellsMembers.close true [] .nil)
    | cons member members =>
      have hmembers : SpellsMembers true (member :: members) ([] ++ _) :=
        spellsMembers_separated (prettyMembers level) (spaces_newLine (level + 1)) spaces_blank
          (spaces_newLine level) (fun _ _ => rfl) (fun _ _ _ _ => rfl)
          (.first (spaces_newLine (level + 1))) fun member hmember => ih member hmember (level + 1)
      rw [prettyChars, List.cons_append, List.cons_append, List.append_assoc]
      exact .object hmembers

/-- The text without any blanks spells its document. -/
theorem Exact.spells_compact {doc : Document} (h : doc.Exact) : doc.Spells doc.compactChars := by
  induction h with
  | null => exact .null
  | @bool b =>
    cases b with
    | false => exact .boolFalse
    | true => exact .boolTrue
  | integer hn => exact .integer hn
  | string => exact .string
  | @array items _ ih =>
    cases items with
    | nil => exact .array (@SpellsItems.close true [] .nil)
    | cons item items =>
      have hitems : SpellsItems true (item :: items) ([] ++ _) :=
        spellsItems_separated compactItems .nil .nil (fun _ => rfl) (fun _ _ _ => rfl)
          (.first .nil) ih
      rw [compactChars, List.cons_append]
      exact .array hitems
  | @object members _ ih =>
    cases members with
    | nil => exact .object (@SpellsMembers.close true [] .nil)
    | cons member members =>
      have hmembers : SpellsMembers true (member :: members) ([] ++ _) :=
        spellsMembers_separated compactMembers .nil .nil .nil (fun _ _ => rfl)
          (fun _ _ _ _ => rfl) (.first .nil) ih
      rw [compactChars, List.cons_append]
      exact .object hmembers

/-- A reader of records gets back the document that a text spells. -/
theorem Spells.parse?_ofList {doc : Document} {cs : List Char} (h : doc.Spells cs) :
    Document.parse? (String.ofList cs) = some doc := by
  have hread : readValue .lenient (3 * cs.length + 3) (cs ++ []) = .ok (doc, []) :=
    h.readValue_eq trivial (by omega) (by simp [EndsNumber])
  rw [List.append_nil] at hread
  rw [Document.parse?, String.toList_ofList, readText, hread]
  rfl

theorem Exact.parse?_pretty {doc : Document} (h : doc.Exact) :
    Document.parse? doc.pretty = some doc :=
  (h.spells_pretty 0).parse?_ofList

theorem Exact.parse?_compact {doc : Document} (h : doc.Exact) :
    Document.parse? doc.compact = some doc :=
  h.spells_compact.parse?_ofList

private theorem listIsReadable_iff {items : List Document} :
    listIsReadable items = true ↔ ∀ item ∈ items, item.isReadable = true := by
  induction items with
  | nil => simp [listIsReadable]
  | cons item items ih => simp [listIsReadable, ih]

private theorem membersAreReadable_iff {members : List (String × Document)} :
    membersAreReadable members = true ↔ ∀ member ∈ members, member.2.isReadable = true := by
  induction members with
  | nil => simp [membersAreReadable]
  | cons member members ih =>
    obtain ⟨name, item⟩ := member
    rw [membersAreReadable, Bool.and_eq_true, ih, List.forall_mem_cons]

theorem Exact.isReadable {doc : Document} (h : doc.Exact) : doc.isReadable = true := by
  induction h with
  | null => rfl
  | bool => rfl
  | integer => rfl
  | string => rfl
  | array _ ih =>
    rw [Document.isReadable]
    exact listIsReadable_iff.2 ih
  | object _ ih =>
    rw [Document.isReadable]
    exact membersAreReadable_iff.2 ih

end Document

/-- A value of integers that fit 64 bits. Its objects have their members as readers leave them, in
    increasing order of names and each name once. -/
inductive Exact : Json → Prop where
  | null : Exact .null
  | bool {b : Bool} : Exact (.bool b)
  | integer {n : Int} (hn : FitsWord n) : Exact (.number (.integer n))
  | string {s : String} : Exact (.string s)
  | array {items : List Json} (hitems : ∀ item ∈ items, item.Exact) : Exact (.array items)
  | object {members : List (String × Json)} (hordered : Ordered members)
      (hmembers : ∀ member ∈ members, member.2.Exact) : Exact (.object members)

theorem listToDocument_eq (items : List Json) : listToDocument items = items.map toDocument := by
  induction items with
  | nil => rfl
  | cons item items ih => rw [listToDocument, ih, List.map_cons]

theorem membersToDocument_eq (members : List (String × Json)) :
    membersToDocument members = members.map fun member => (member.1, member.2.toDocument) := by
  induction members with
  | nil => rfl
  | cons member members ih => rw [membersToDocument, ih, List.map_cons]

theorem Exact.exact_toDocument {v : Json} (h : v.Exact) : v.toDocument.Exact := by
  induction h with
  | null => exact .null
  | bool => exact .bool
  | integer hn => exact .integer hn
  | string => exact .string
  | array _ ih =>
    rw [toDocument, listToDocument_eq]
    exact .array (List.forall_mem_map.2 ih)
  | object _ _ ih =>
    rw [toDocument, membersToDocument_eq]
    exact .object (List.forall_mem_map.2 ih)

private theorem listValue_listToDocument {items : List Json}
    (h : ∀ item ∈ items, item.toDocument.value = item) :
    Document.listValue (listToDocument items) = items := by
  induction items with
  | nil => rfl
  | cons item items ih =>
    obtain ⟨hitem, hitems⟩ := List.forall_mem_cons.1 h
    rw [listToDocument, Document.listValue, hitem, ih hitems]

private theorem membersValue_membersToDocument {earlier members : List (String × Json)}
    (hordered : Ordered (earlier ++ members))
    (hmembers : ∀ member ∈ members, member.2.toDocument.value = member.2) :
    Document.membersValue earlier (membersToDocument members) = earlier ++ members := by
  induction members generalizing earlier with
  | nil => rw [membersToDocument, Document.membersValue, List.append_nil]
  | cons member members ih =>
    obtain ⟨hmember, hrest⟩ := List.forall_mem_cons.1 hmembers
    have hgreatest : ∀ entry ∈ earlier, entry.1 < member.1 := fun entry hentry =>
      (List.pairwise_append.1 hordered).2.2 entry hentry member List.mem_cons_self
    rw [List.append_cons] at hordered ⊢
    rw [membersToDocument, Document.membersValue, hmember, insertEntry_of_lt hgreatest,
      ih hordered hrest]

/-- Reading a value's own text as a value changes nothing. -/
theorem Exact.value_toDocument {v : Json} (h : v.Exact) : v.toDocument.value = v := by
  induction h with
  | null => rfl
  | bool => rfl
  | integer => rfl
  | string => rfl
  | array _ ih => rw [toDocument, Document.value, listValue_listToDocument ih]
  | object hordered _ ih =>
    rw [toDocument, Document.value, @membersValue_membersToDocument [] _ hordered ih,
      List.nil_append]

/-- A value of at most 127 levels is what its compact text is read as. -/
theorem Exact.parse_compact {v : Json} (h : v.Exact) (hdepth : v.toDocument.depth ≤ 127) :
    parse v.compact = .ok v := by
  have hread : readValue .default (3 * v.toDocument.compactChars.length + 3)
      (v.toDocument.compactChars ++ []) = .ok (v.toDocument, []) :=
    h.exact_toDocument.spells_compact.readValue_eq hdepth (by omega) (by simp [EndsNumber])
  rw [List.append_nil] at hread
  rw [parse, compact, Document.compact, String.toList_ofList, readText, hread]
  exact congrArg Except.ok h.value_toDocument

end Json

end Stageflow
