import Stageflow.Proofs.Json.Scalar

namespace Stageflow.Json

/-- Characters that the reader of a document passes over. -/
def Spaces (cs : List Char) : Prop :=
  ∀ c ∈ cs, isSpace c = true

/-- What stands in front of an item or a member: spaces, and a comma among them unless it is the
    first one. -/
inductive Separates : Bool → List Char → Prop where
  | first {spaces : List Char} (hspaces : Spaces spaces) : Separates true spaces
  | next {before behind : List Char} (hbefore : Spaces before) (hbehind : Spaces behind) :
      Separates false (before ++ ',' :: behind)

namespace Document

mutual

/-- A text spells a document whose numbers all are integers that fit 64 bits. Between its parts it
    may have any spaces. -/
inductive Spells : Document → List Char → Prop where
  | null : Spells .null ['n', 'u', 'l', 'l']
  | boolTrue : Spells (.bool true) ['t', 'r', 'u', 'e']
  | boolFalse : Spells (.bool false) ['f', 'a', 'l', 's', 'e']
  | integer {n : Int} (hn : FitsWord n) : Spells (.number (.integer n)) (Number.integer n).text
  | string {s : String} : Spells (.string s) (stringText s)
  | array {items : List Document} {cs : List Char} (hitems : SpellsItems true items cs) :
      Spells (.array items) ('[' :: cs)
  | object {members : List (String × Document)} {cs : List Char}
      (hmembers : SpellsMembers true members cs) : Spells (.object members) ('\x7b' :: cs)

/-- A text goes on from the opening bracket of an array, or from one of its items, to its closing
    bracket. -/
inductive SpellsItems : Bool → List Document → List Char → Prop where
  | close {first : Bool} {spaces : List Char} (hspaces : Spaces spaces) :
      SpellsItems first [] (spaces ++ [']'])
  | item {first : Bool} {gap cs rest : List Char} {item : Document} {items : List Document}
      (hgap : Separates first gap) (hitem : Spells item cs)
      (hrest : SpellsItems false items rest) :
      SpellsItems first (item :: items) (gap ++ (cs ++ rest))

/-- The same for the members of an object. -/
inductive SpellsMembers : Bool → List (String × Document) → List Char → Prop where
  | close {first : Bool} {spaces : List Char} (hspaces : Spaces spaces) :
      SpellsMembers first [] (spaces ++ ['\x7d'])
  | member {first : Bool} {gap before behind cs rest : List Char} {name : String}
      {item : Document} {members : List (String × Document)} (hgap : Separates first gap)
      (hbefore : Spaces before) (hbehind : Spaces behind) (hitem : Spells item cs)
      (hrest : SpellsMembers false members rest) :
      SpellsMembers first ((name, item) :: members)
        (gap ++ (stringText name ++ (before ++ ':' :: (behind ++ (cs ++ rest)))))

end

end Document

/-! What readers do at the borders of the parts. -/

theorem skipSpace_append {spaces : List Char} (h : Spaces spaces) (cs : List Char) :
    skipSpace (spaces ++ cs) = skipSpace cs :=
  List.dropWhile_append_of_pos h

theorem skipSpace_cons {c : Char} (h : isSpace c = false) (cs : List Char) :
    skipSpace (c :: cs) = c :: cs := by
  rw [skipSpace, List.dropWhile_cons_of_neg]
  rw [h]
  decide

private theorem ne_of_isSpace {c : Char} (h : isSpace c = true) :
    c.isDigit = false ∧ c ≠ '.' ∧ c ≠ 'e' ∧ c ≠ 'E' := by
  simp only [isSpace, Bool.or_eq_true, beq_iff_eq] at h
  rcases h with ((rfl | rfl) | rfl) | rfl
  all_goals decide

/-- A number ends in front of spaces and of whatever is no part of numbers. -/
private theorem endsNumber_spaces {spaces : List Char} (hspaces : Spaces spaces) {c : Char}
    (hc : c.isDigit = false ∧ c ≠ '.' ∧ c ≠ 'e' ∧ c ≠ 'E') (cs : List Char) :
    EndsNumber (spaces ++ c :: cs) := by
  intro d hd
  cases spaces with
  | nil =>
    obtain rfl := Option.some.inj hd
    exact hc
  | cons e spaces =>
    obtain rfl := Option.some.inj hd
    exact ne_of_isSpace (hspaces e List.mem_cons_self)

namespace Document

theorem SpellsItems.endsNumber {items : List Document} {cs : List Char}
    (h : SpellsItems false items cs) (rest : List Char) : EndsNumber (cs ++ rest) := by
  cases h with
  | close hspaces =>
    rw [List.append_assoc]
    exact endsNumber_spaces hspaces (by decide) _
  | item hgap =>
    cases hgap with
    | next hbefore =>
      rw [List.append_assoc, List.append_assoc]
      exact endsNumber_spaces hbefore (by decide) _

theorem SpellsMembers.endsNumber {members : List (String × Document)} {cs : List Char}
    (h : SpellsMembers false members cs) (rest : List Char) : EndsNumber (cs ++ rest) := by
  cases h with
  | close hspaces =>
    rw [List.append_assoc]
    exact endsNumber_spaces hspaces (by decide) _
  | member hgap =>
    cases hgap with
    | next hbefore =>
      rw [List.append_assoc, List.append_assoc]
      exact endsNumber_spaces hbefore (by decide) _

private theorem ne_of_isDigit {c : Char} (h : c.isDigit = true) :
    isSpace c = false ∧ c ≠ ']' ∧ c ≠ 'n' ∧ c ≠ 't' ∧ c ≠ 'f' ∧ c ≠ '-' := by
  have hne : ∀ d : Char, d.isDigit = false → c ≠ d := by
    rintro d hd rfl
    rw [hd] at h
    cases h
  refine ⟨?_, hne _ (by decide), hne _ (by decide), hne _ (by decide), hne _ (by decide),
    hne _ (by decide)⟩
  simp [isSpace, hne]

/-- The first character of a document can be told from spaces and from a closing bracket. -/
theorem Spells.exists_cons {doc : Document} {cs : List Char} (h : doc.Spells cs) :
    ∃ c tail, cs = c :: tail ∧ isSpace c = false ∧ c ≠ ']' := by
  cases h with
  | null => exact ⟨_, _, rfl, by decide⟩
  | boolTrue => exact ⟨_, _, rfl, by decide⟩
  | boolFalse => exact ⟨_, _, rfl, by decide⟩
  | integer hn =>
    obtain ⟨negative, digits, htext, ⟨d, hd, hdigit⟩, -⟩ := exists_integerText hn
    rw [htext]
    cases negative with
    | true => exact ⟨_, _, rfl, by decide⟩
    | false =>
      obtain ⟨ds, rfl⟩ := List.head?_eq_some_iff.1 hd
      obtain ⟨hspace, hbracket, -⟩ := ne_of_isDigit hdigit
      exact ⟨d, ds, rfl, hspace, hbracket⟩
  | string => exact ⟨_, _, rfl, by decide⟩
  | array => exact ⟨_, _, rfl, by decide⟩
  | object => exact ⟨_, _, rfl, by decide⟩

end Document

/-! Reading back what is spelled. -/

/-- A mode allows a text to nest as deep as it does. -/
def Mode.Allows : Mode → Nat → Prop
  | .strict depth, nested => nested ≤ depth
  | .lenient, _ => True

theorem Mode.Allows.mono {mode : Mode} {nested other : Nat} (h : mode.Allows nested)
    (hle : other ≤ nested) : mode.Allows other := by
  cases mode with
  | strict depth => exact Nat.le_trans hle h
  | lenient => trivial

theorem Mode.Allows.enter {mode : Mode} {nested : Nat} (h : mode.Allows (nested + 1)) :
    ∃ inner, mode.enter = some inner ∧ inner.Allows nested := by
  cases mode with
  | strict depth =>
    cases depth with
    | zero => cases h
    | succ depth => exact ⟨.strict depth, rfl, Nat.le_of_succ_le_succ h⟩
  | lenient => exact ⟨.lenient, rfl, trivial⟩

section Steps

variable {mode : Mode} {fuel : Nat} {cs rest : List Char}

theorem readValue_spaces {spaces : List Char} (hspaces : Spaces spaces) :
    readValue mode (fuel + 1) (spaces ++ cs) = readValue mode (fuel + 1) cs := by
  rw [readValue, readValue, skipSpace_append hspaces]

private theorem readValue_integer {n : Int} (hn : FitsWord n) (hrest : EndsNumber rest) :
    readValue mode (fuel + 1) ((Number.integer n).text ++ rest) =
      .ok (.number (.integer n), rest) := by
  obtain ⟨negative, digits, htext, ⟨d, hd, hdigit⟩, hread⟩ := exists_integerText hn
  obtain ⟨ds, rfl⟩ := List.head?_eq_some_iff.1 hd
  have hnumber := hread mode.isLenient rest hrest
  obtain ⟨hspace, -, hn, ht, hf, hsign⟩ := Document.ne_of_isDigit hdigit
  rw [htext, readValue.eq_def]
  cases negative with
  | true =>
    have hskip : skipSpace ('-' :: (d :: ds ++ rest)) = '-' :: (d :: ds ++ rest) :=
      skipSpace_cons (by decide) _
    simp only [if_true, List.cons_append, List.nil_append] at hskip hnumber ⊢
    simp only [hskip, hnumber, (by decide : '-' ≠ 'n'), (by decide : '-' ≠ 't'),
      (by decide : '-' ≠ 'f'), true_or, if_true, if_false]
  | false =>
    have hskip : skipSpace (d :: (ds ++ rest)) = d :: (ds ++ rest) := skipSpace_cons hspace _
    simp only [Bool.false_eq_true, if_false, List.nil_append, List.cons_append] at hnumber ⊢
    simp only [hskip, hn, ht, hf, hsign, hdigit, hnumber, or_true, if_true, if_false]

private theorem readValue_string (s : String) :
    readValue mode (fuel + 1) (stringText s ++ rest) = .ok (.string s, rest) := by
  obtain ⟨content, htext, hread⟩ := exists_stringText s
  have hskip : skipSpace ('"' :: (content ++ rest)) = '"' :: (content ++ rest) :=
    skipSpace_cons (by decide) _
  have hquote : ¬ ('"' = '-' ∨ '"'.isDigit = true) := by decide
  rw [htext, List.cons_append, readValue.eq_def]
  simp only [hskip, hread, hquote, (by decide : '"' ≠ 'n'), (by decide : '"' ≠ 't'),
    (by decide : '"' ≠ 'f'), if_true, if_false, String.ofList_toList]

private theorem readValue_array {inner : Mode} (henter : mode.enter = some inner)
    {items : List Document} (hitems : readItems inner true fuel cs = .ok (items, rest)) :
    readValue mode (fuel + 1) ('[' :: cs) = .ok (.array items, rest) := by
  have hskip : skipSpace ('[' :: cs) = '[' :: cs := skipSpace_cons (by decide) _
  have hbracket : ¬ ('[' = '-' ∨ '['.isDigit = true) := by decide
  rw [readValue.eq_def]
  simp only [hskip, henter, hitems, hbracket, (by decide : '[' ≠ 'n'), (by decide : '[' ≠ 't'),
    (by decide : '[' ≠ 'f'), (by decide : '[' ≠ '"'), if_true, if_false]

private theorem readValue_object {inner : Mode} (henter : mode.enter = some inner)
    {members : List (String × Document)}
    (hmembers : readMembers inner true fuel cs = .ok (some members, rest)) :
    readValue mode (fuel + 1) ('\x7b' :: cs) = .ok (.object members, rest) := by
  have hskip : skipSpace ('\x7b' :: cs) = '\x7b' :: cs := skipSpace_cons (by decide) _
  have hbrace : ¬ ('\x7b' = '-' ∨ '\x7b'.isDigit = true) := by decide
  rw [readValue.eq_def]
  simp only [hskip, henter, hmembers, hbrace, (by decide : '\x7b' ≠ 'n'),
    (by decide : '\x7b' ≠ 't'), (by decide : '\x7b' ≠ 'f'), (by decide : '\x7b' ≠ '"'),
    (by decide : '\x7b' ≠ '['), if_true, if_false]

/-- Whether it is the first or not, an item is read behind what separates it. -/
private theorem readItems_item {first : Bool} {gap tail : List Char} {c : Char} {item : Document}
    {items : List Document} (hgap : Separates first gap) (hspace : isSpace c = false)
    (hbracket : c ≠ ']') (hitem : readValue mode fuel (c :: cs) = .ok (item, tail))
    (hitems : readItems mode false fuel tail = .ok (items, rest)) :
    readItems mode first (fuel + 1) (gap ++ c :: cs) = .ok (item :: items, rest) := by
  rw [readItems.eq_def]
  cases hgap with
  | first hspaces =>
    simp only [skipSpace_append hspaces, skipSpace_cons hspace, hbracket, hitem, hitems, if_true,
      if_false]
  | @next before behind hbefore hbehind =>
    have hcomma : skipSpace (',' :: (behind ++ c :: cs)) = ',' :: (behind ++ c :: cs) :=
      skipSpace_cons (by decide) _
    rw [List.append_assoc, List.cons_append]
    simp only [skipSpace_append hbefore, hcomma, skipSpace_append hbehind, skipSpace_cons hspace,
      hbracket, hitem, hitems, (by decide : ',' ≠ ']'), Bool.false_eq_true, if_true, if_false]

private theorem readMembers_member {first : Bool} {gap : List Char}
    (hgap : Separates first gap) :
    readMembers mode first (fuel + 1) (gap ++ '"' :: cs) = readMember mode fuel cs := by
  have hquote : skipSpace ('"' :: cs) = '"' :: cs := skipSpace_cons (by decide) _
  rw [readMembers.eq_def]
  cases hgap with
  | first hspaces =>
    simp only [skipSpace_append hspaces, hquote, (by decide : '"' ≠ '\x7d'), if_true, if_false]
  | @next before behind hbefore hbehind =>
    have hcomma : skipSpace (',' :: (behind ++ '"' :: cs)) = ',' :: (behind ++ '"' :: cs) :=
      skipSpace_cons (by decide) _
    rw [List.append_assoc, List.cons_append]
    simp only [skipSpace_append hbefore, hcomma, skipSpace_append hbehind, hquote,
      (by decide : ',' ≠ '\x7d'), Bool.false_eq_true, if_true, if_false]

private theorem readMember_member {content before tail : List Char} {name : String}
    {item : Document} {members : List (String × Document)}
    (hname : readString mode.isLenient (content ++ (before ++ ':' :: cs)) =
      .ok (some name.toList, before ++ ':' :: cs))
    (hbefore : Spaces before) (hitem : readValue mode fuel cs = .ok (item, tail))
    (hmembers : readMembers mode false fuel tail = .ok (some members, rest)) :
    readMember mode (fuel + 1) (content ++ (before ++ ':' :: cs)) =
      .ok (some ((name, item) :: members), rest) := by
  have hcolon : skipSpace (':' :: cs) = ':' :: cs := skipSpace_cons (by decide) _
  rw [readMember.eq_def]
  simp only [hname, skipSpace_append hbefore, hcolon, hitem, hmembers, ne_eq, not_true_eq_false,
    if_false, MembersRead.push, Except.map, String.ofList_toList]

end Steps

namespace Document

mutual

/-- What spells a document is read as the document, if there is fuel enough and if the text behind
    it cannot continue a number. -/
theorem Spells.readValue_eq {doc : Document} {mode : Mode} {fuel : Nat} {cs rest : List Char}
    (h : doc.Spells cs) (hdepth : mode.Allows doc.depth) (hfuel : 2 * cs.length ≤ fuel)
    (hrest : EndsNumber rest) : readValue mode fuel (cs ++ rest) = .ok (doc, rest) := by
  obtain ⟨c, tail, hcs, -⟩ := h.exists_cons
  have hlength := congrArg List.length hcs
  rw [List.length_cons] at hlength
  obtain ⟨fuel, rfl⟩ : ∃ n, fuel = n + 1 := Nat.exists_eq_succ_of_ne_zero (by omega)
  cases h with
  | null => rfl
  | boolTrue => rfl
  | boolFalse => rfl
  | integer hn => exact readValue_integer hn hrest
  | string => exact readValue_string _
  | array hitems =>
    rw [depth] at hdepth
    obtain ⟨inner, henter, hinner⟩ := hdepth.enter
    rw [List.length_cons] at hfuel
    exact readValue_array henter (hitems.readItems_eq hinner (by omega) rest)
  | object hmembers =>
    rw [depth] at hdepth
    obtain ⟨inner, henter, hinner⟩ := hdepth.enter
    rw [List.length_cons] at hfuel
    exact readValue_object henter (hmembers.readMembers_eq hinner (by omega) rest)

theorem SpellsItems.readItems_eq {items : List Document} {mode : Mode} {first : Bool} {fuel : Nat}
    {cs : List Char} (h : SpellsItems first items cs) (hdepth : mode.Allows (listDepth items))
    (hfuel : 2 * cs.length + 1 ≤ fuel) (rest : List Char) :
    readItems mode first fuel (cs ++ rest) = .ok (items, rest) := by
  obtain ⟨fuel, rfl⟩ : ∃ n, fuel = n + 1 := Nat.exists_eq_succ_of_ne_zero (by omega)
  cases h with
  | close hspaces =>
    have hskip : skipSpace (']' :: rest) = ']' :: rest := skipSpace_cons (by decide) _
    rw [List.append_assoc, List.singleton_append, readItems.eq_def]
    simp only [skipSpace_append hspaces, hskip, if_true]
  | item hgap hitem htail =>
    obtain ⟨c, cs, rfl, hspace, hbracket⟩ := hitem.exists_cons
    simp only [List.length_append, List.length_cons] at hfuel
    rw [listDepth] at hdepth
    have hread := hitem.readValue_eq (hdepth.mono (Nat.le_max_left _ _))
      (show 2 * _ ≤ fuel by rw [List.length_cons]; omega) (htail.endsNumber rest)
    have hreads := htail.readItems_eq (hdepth.mono (Nat.le_max_right _ _))
      (show 2 * _ + 1 ≤ fuel by omega) rest
    simp only [List.append_assoc, List.cons_append] at hread ⊢
    exact readItems_item hgap hspace hbracket hread hreads

theorem SpellsMembers.readMembers_eq {members : List (String × Document)} {mode : Mode}
    {first : Bool} {fuel : Nat} {cs : List Char} (h : SpellsMembers first members cs)
    (hdepth : mode.Allows (membersDepth members)) (hfuel : 2 * cs.length + 1 ≤ fuel)
    (rest : List Char) :
    readMembers mode first fuel (cs ++ rest) = .ok (some members, rest) := by
  obtain ⟨fuel, rfl⟩ : ∃ n, fuel = n + 1 := Nat.exists_eq_succ_of_ne_zero (by omega)
  cases h with
  | close hspaces =>
    have hskip : skipSpace ('\x7d' :: rest) = '\x7d' :: rest := skipSpace_cons (by decide) _
    rw [List.append_assoc, List.singleton_append, readMembers.eq_def]
    simp only [skipSpace_append hspaces, hskip, if_true]
  | @member first gap before behind cs tail name item members hgap hbefore hbehind hitem htail =>
    obtain ⟨content, htext, hstring⟩ := exists_stringText name
    rw [htext] at hfuel ⊢
    simp only [List.length_append, List.length_cons] at hfuel
    obtain ⟨fuel, rfl⟩ : ∃ n, fuel = n + 2 := ⟨fuel - 2, by omega⟩
    rw [membersDepth] at hdepth
    have hread := hitem.readValue_eq (hdepth.mono (Nat.le_max_left _ _))
      (show 2 * _ ≤ fuel + 1 by omega) (htail.endsNumber rest)
    have hreads := htail.readMembers_eq (hdepth.mono (Nat.le_max_right _ _))
      (show 2 * _ + 1 ≤ fuel + 1 by omega) rest
    rw [← readValue_spaces hbehind] at hread
    simp only [List.append_assoc, List.cons_append] at hread ⊢
    rw [readMembers_member hgap]
    exact readMember_member (hstring mode.isLenient _) hbefore hread hreads

end

end Document

end Stageflow.Json
