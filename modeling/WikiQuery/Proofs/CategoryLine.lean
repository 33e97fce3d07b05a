import Mathlib.Data.List.Forall2
import WikiQuery.Proofs.Ampersand
import WikiQuery.Proofs.Domain

/-!
What one line of categories says, and what it does to a query. A line is read in one way: a mark in
front of it names headings, bare ampersands or else bars divide it into terms, and each term stands for
categories, which together are one group. The query gets this group and nothing else.
-/

set_option autoImplicit false

namespace WikiQuery

namespace Text

/-- A text is cut if and only if one of its ampersands does not begin a reference. -/
theorem one_lt_length_bareAmpersandPieces_iff {cs : List Char} :
    1 < (bareAmpersandPieces cs).length ↔
      ∃ before after, cs = before ++ '&' :: after ∧ opensReference ('&' :: after) = false := by
  constructor
  · intro several
    induction cs using segment_induction with
    | nil => exact absurd several (by decide)
    | segment part rest whole ih =>
      rw [whole.pieces, List.length_modifyHead] at several
      obtain ⟨before, after, rfl, bare⟩ := ih several
      exact ⟨part ++ before, after, (List.append_assoc ..).symm, bare⟩
    | bare cs missing _ => exact ⟨[], cs, rfl, opensReference_eq_false_iff.mpr missing⟩
  · rintro ⟨before, after, rfl, bare⟩
    -- There is a piece on either side at least.
    rw [bareAmpersandPieces_append_bare (opensReference_eq_false_iff.mp bare), List.length_append]
    have front := List.length_pos_of_ne_nil (bareAmpersandPieces_ne_nil before)
    have back := List.length_pos_of_ne_nil (bareAmpersandPieces_ne_nil after)
    omega

end Text

namespace Reading

open Text (bareAmpersandPieces decoded opensReference pieces toKey trimmed)

variable {host : Host} {text : String} {heading : Option String} {content cs name term : List Char}
  {depth : Nat} {keys : List String}

/-- A line with its mark, if there is one. The mark names the list of headings that the line adds to. -/
inductive Marked : Option String → List Char → List Char → Prop
  | plus (content : List Char) : Marked (some "catheadings") content ('+' :: content)
  | minus (content : List Char) : Marked (some "catnotheadings") content ('-' :: content)
  | unmarked {content : List Char} (plus : content.head? ≠ some '+')
      (minus : content.head? ≠ some '-') : Marked none content content

private theorem head?_ne_some {c : Char} (other : ∀ rest, cs = c :: rest → False) :
    cs.head? ≠ some c := by
  intro first
  obtain ⟨rest, rfl⟩ := List.head?_eq_some_iff.mp first
  exact other rest rfl

theorem marked_iff : Marked heading content cs ↔ headingOf cs = (heading, content) := by
  constructor
  · rintro (_ | _ | ⟨plus, minus⟩)
    · rfl
    · rfl
    · unfold headingOf
      split
      · exact absurd rfl plus
      · exact absurd rfl minus
      · rfl
  · intro same
    unfold headingOf at same
    split at same
    · obtain ⟨rfl, rfl⟩ := Prod.mk.inj same
      exact .plus _
    · obtain ⟨rfl, rfl⟩ := Prod.mk.inj same
      exact .minus _
    · rename_i plus minus
      obtain ⟨rfl, rfl⟩ := Prod.mk.inj same
      exact .unmarked (head?_ne_some plus) (head?_ne_some minus)

/-- A term with the stars in front of it, of which two count at most. -/
structure Starred (depth : Nat) (name term : List Char) : Prop where
  spelled : term = List.replicate depth '*' ++ name
  most : depth ≤ 2
  all : depth < 2 → name.head? ≠ some '*'

theorem depthOf_of_head?_ne (first : cs.head? ≠ some '*') : depthOf cs = (0, cs) := by
  unfold depthOf
  split
  · exact absurd rfl first
  · exact absurd rfl first
  · rfl

theorem depthOf_star (first : cs.head? ≠ some '*') : depthOf ('*' :: cs) = (1, cs) := by
  cases cs with
  | nil => rfl
  | cons c cs =>
    have other : c ≠ '*' := fun same => first (congrArg some same)
    simp [depthOf, other]

theorem starred_iff : Starred depth name term ↔ depthOf term = (depth, name) := by
  constructor
  · rintro ⟨rfl, most, all⟩
    obtain rfl | rfl | rfl : depth = 0 ∨ depth = 1 ∨ depth = 2 := by omega
    · exact depthOf_of_head?_ne (all (by decide))
    · exact depthOf_star (all (by decide))
    · rfl
  · intro same
    unfold depthOf at same
    split at same
    · obtain ⟨rfl, rfl⟩ := Prod.mk.inj same
      exact ⟨rfl, by decide, fun few => absurd few (by decide)⟩
    · rename_i single
      obtain ⟨rfl, rfl⟩ := Prod.mk.inj same
      exact ⟨rfl, by decide, fun _ => head?_ne_some single⟩
    · rename_i single
      obtain ⟨rfl, rfl⟩ := Prod.mk.inj same
      exact ⟨rfl, by decide, fun _ => head?_ne_some single⟩

/-- The keys of the categories that a term stands for. Those below the named one come before it; a name
that is no title stands for none. -/
inductive StandsFor (host : Host) (term : List Char) : List String → Prop
  | nothing {depth : Nat} {name : List Char} (starred : Starred depth name term)
      (unread : host.resolveTitle (String.ofList (trimmed name)) = none) : StandsFor host term []
  | alone {name : List Char} {title : Title} (starred : Starred 0 name term)
      (read : host.resolveTitle (String.ofList (trimmed name)) = some title) :
      StandsFor host term [title.key]
  | below {depth : Nat} {name : List Char} {title : Title} (starred : Starred depth name term)
      (deep : 0 < depth)
      (read : host.resolveTitle (String.ofList (trimmed name)) = some title) :
      StandsFor host term ((host.subcategories title.key depth).map toKey ++ [title.key])

theorem standsFor_iff : StandsFor host term keys ↔ membersOf host term = keys := by
  constructor
  · rintro (⟨starred, unread⟩ | ⟨starred, read⟩ | ⟨starred, deep, read⟩)
    · simp only [membersOf, starred_iff.mp starred, unread]
    · simp [membersOf, starred_iff.mp starred, read]
    · simp only [membersOf, starred_iff.mp starred, read, if_pos deep]
  · rintro rfl
    have starred : Starred (depthOf term).1 (depthOf term).2 term := starred_iff.mpr rfl
    cases read : host.resolveTitle (String.ofList (trimmed (depthOf term).2)) with
    | none =>
      simp only [membersOf, read]
      exact .nothing starred read
    | some title =>
      by_cases deep : 0 < (depthOf term).1
      · simp only [membersOf, read, if_pos deep]
        exact .below starred deep read
      · rw [Nat.eq_zero_of_not_pos deep] at starred
        simp only [membersOf, read, if_neg deep]
        exact .alone starred read

theorem firstOccurrences_groupOf (host : Host) (terms : List (List Char)) :
    FirstOccurrences ((terms.filter fun term => !isUncategorized term).map (membersOf host)).flatten
      (groupOf host terms) := by
  rw [← List.flatMap_def]
  exact firstOccurrences_eraseDups _

/-- What a line of categories says. -/
@[ext]
structure CategoryLine (host : Host) (text : String) where
  /-- The list of headings that the line adds to. -/
  heading : Option String
  /-- The line without its mark. -/
  content : List Char
  /-- Whether all members of the group are asked for. -/
  isAnd : Bool
  terms : List (List Char)
  group : List String
  marked : Marked heading content (trimmed text.toList)
  asked : isAnd = true ↔
    ∃ before after, content = before ++ '&' :: after ∧ opensReference ('&' :: after) = false
  divided : terms = (if isAnd = true then bareAmpersandPieces content else pieces '|' content).map
    fun part => trimmed (decoded part)
  gathered : ∃ members,
    List.Forall₂ (StandsFor host) (terms.filter fun term => !isUncategorized term) members ∧
      FirstOccurrences members.flatten group

namespace CategoryLine

/-- The line that a text is read as. -/
def read (host : Host) (text : String) : CategoryLine host text where
  heading := (headingOf (trimmed text.toList)).1
  content := (headingOf (trimmed text.toList)).2
  isAnd := (termsOf (headingOf (trimmed text.toList)).2).1
  terms := (termsOf (headingOf (trimmed text.toList)).2).2
  group := groupOf host (termsOf (headingOf (trimmed text.toList)).2).2
  marked := marked_iff.mpr rfl
  asked := decide_eq_true_iff.trans Text.one_lt_length_bareAmpersandPieces_iff
  divided := rfl
  gathered := by
    refine ⟨_, ?_, firstOccurrences_groupOf host _⟩
    exact List.forall₂_map_right_iff.mpr (List.forall₂_same.mpr fun term _ => standsFor_iff.mpr rfl)

/-- No line is read in two ways. -/
theorem eq_read (line : CategoryLine host text) : line = read host text := by
  have marked := marked_iff.mp line.marked
  have heading : line.heading = (read host text).heading := (congrArg Prod.fst marked).symm
  have content : line.content = (read host text).content := (congrArg Prod.snd marked).symm
  have isAnd : line.isAnd = (read host text).isAnd := by
    rw [Bool.eq_iff_iff, line.asked, (read host text).asked, content]
  have terms : line.terms = (read host text).terms := by
    rw [line.divided, (read host text).divided, content, isAnd]
  have group : line.group = (read host text).group := by
    obtain ⟨members, each, firsts⟩ := line.gathered
    -- Each term stands for one list of categories only.
    obtain rfl : (line.terms.filter fun term => !isUncategorized term).map (membersOf host) =
        members := by
      have same := each.imp fun _ _ => standsFor_iff.mp
      rwa [← List.forall₂_map_left_iff, List.forall₂_eq_eq_eq] at same
    have said : (read host text).group = groupOf host (read host text).terms := by
      simp only [read]
    rw [said, ← terms]
    exact firsts.unique (firstOccurrences_groupOf host line.terms)
  exact CategoryLine.ext heading content isAnd terms group

variable {spec before after : Specification}

/-- What a line writes to a query. -/
def writes (line : CategoryLine host text) (spec : Specification) : List (String × Value) :=
  groupWrites spec line.heading line.isAnd line.group ++
    if line.terms.any isUncategorized then [("includeuncat", .bool true)] else []

/-- A line is refused if it is blank, or if it comes to no category and does not call for pages without
one either. -/
theorem category_eq_none_iff (line : CategoryLine host text) (spec : Specification) :
    category host spec text = none ↔
      trimmed text.toList = [] ∨
        line.group = [] ∧ ∀ term ∈ line.terms, isUncategorized term = false := by
  rw [line.eq_read]
  simp only [category, read, ite_eq_left_iff, reduceCtorEq, imp_false, not_not,
    List.isEmpty_iff, Bool.and_eq_true, Bool.not_eq_true', List.any_eq_false, Bool.not_eq_true]
  exact or_iff_not_imp_left.symm

theorem writes_of_category {change : Change} (line : CategoryLine host text)
    (read : category host spec text = some change) : change.writes = line.writes spec := by
  rw [line.eq_read]
  simp only [category, Option.ite_none_left_eq_some, Option.some.injEq] at read
  rw [← read.2.2]
  simp only [writes, CategoryLine.read]
  rfl

theorem mem_writes {line : CategoryLine host text} {w : String × Value} :
    w ∈ line.writes spec ↔
      (line.group ≠ [] ∧
        (w = ("category",
            .categories (withGroup (categoriesOf spec "category") line.isAnd line.group)) ∨
          ∃ key, line.heading = some key ∧
            w = (key, .list (withNew ((spec.list? key).getD []) line.group)))) ∨
      ((∃ term ∈ line.terms, isUncategorized term = true) ∧ w = ("includeuncat", .bool true)) := by
  unfold writes groupWrites
  rw [List.mem_append]
  refine or_congr ?_ ?_
  · by_cases empty : line.group = []
    · simp [empty]
    · cases named : line.heading <;> simp [empty]
  · by_cases called : line.terms.any isUncategorized = true
    · simp [called, List.any_eq_true.mp called]
    · have none : ¬∃ term ∈ line.terms, isUncategorized term = true := fun some =>
        called (List.any_eq_true.mpr some)
      simp [called, none]

theorem heading_cases {line : CategoryLine host text} {key : String}
    (named : line.heading = some key) : key = "catheadings" ∨ key = "catnotheadings" := by
  have marked : (headingOf (trimmed text.toList)).1 = some key := by
    rw [marked_iff.mp line.marked, named]
  exact heading_mem marked

theorem nodup_writes (line : CategoryLine host text) (spec : Specification) :
    ((line.writes spec).map (·.1)).Nodup := by
  -- Each key is written to once at most, and in this order.
  have among : ((line.writes spec).map (·.1)).Sublist
      ("category" :: line.heading.toList ++ ["includeuncat"]) := by
    rw [writes, List.map_append]
    refine List.Sublist.append ?_ ?_
    · by_cases empty : line.group = []
      · simp [groupWrites, empty]
      · cases named : line.heading <;> simp [groupWrites, empty]
    · split <;> simp
  have apart : ("category" :: line.heading.toList ++ ["includeuncat"]).Nodup := by
    cases named : line.heading with
    | none => decide
    | some key => obtain rfl | rfl := heading_cases named <;> decide
  exact apart.sublist among

/-- What an accepted line does to a query: its group is one more of those that are asked for in its way, its
headings get those of the group that they do not have, and nothing else changes but that pages without a
category may be called for. -/
structure Extends (line : CategoryLine host text) (before after : Specification) : Prop where
  grouped : line.group ≠ [] → ∃ old : Option CategorySelector,
    before.value? "category" = old.map Value.categories ∧
    after.value? "category" = some (.categories
      (if line.isAnd = true then { old.getD {} with allOf := (old.getD {}).allOf ++ [line.group] }
      else { old.getD {} with anyOf := (old.getD {}).anyOf ++ [line.group] }))
  headed : line.group ≠ [] → ∀ key, line.heading = some key → ∃ old : Option (List String),
    before.value? key = old.map Value.list ∧
    after.value? key =
      some (.list (old.getD [] ++ line.group.filter fun member => member ∉ old.getD [])) ∧
    (old.getD [] ++ line.group.filter fun member => member ∉ old.getD []).Nodup
  uncategorized : (∃ term ∈ line.terms, isUncategorized term = true) →
    after.value? "includeuncat" = some (.bool true)
  kept : ∀ key, (line.group ≠ [] → key ≠ "category" ∧ line.heading ≠ some key) →
    ((∃ term ∈ line.terms, isUncategorized term = true) → key ≠ "includeuncat") →
    after.value? key = before.value? key

theorem nodup_group (line : CategoryLine host text) : line.group.Nodup := by
  obtain ⟨members, -, firsts⟩ := line.gathered
  exact firsts.nodup

theorem extends_write (line : CategoryLine host text) (obeyed : before.Obeys Domain) :
    line.Extends before (before.write (line.writes before)) where
  grouped inhabited := by
    obtain ⟨old, held, -, gathered⟩ := exists_selector obeyed .wanted
    refine ⟨old, held, before.value?_write_of_mem (line.nodup_writes before) ?_⟩
    refine mem_writes.mpr (.inl ⟨inhabited, .inl ?_⟩)
    rw [← withGroup, ← gathered]
    rfl
  headed inhabited key named := by
    obtain ⟨old, held, nodup, listed⟩ := exists_headings obeyed (heading_cases named)
    have extended : withNew (old.getD []) line.group =
        old.getD [] ++ line.group.filter fun member => member ∉ old.getD [] := by
      rw [withNew, eraseDups_eq_self (line.nodup_group.filter _)]
      simp
    refine ⟨old, held, before.value?_write_of_mem (line.nodup_writes before) ?_, ?_⟩
    · refine mem_writes.mpr (.inl ⟨inhabited, .inr ⟨key, named, ?_⟩⟩)
      rw [listed, extended]
    · rw [← extended]
      exact nodup_withNew nodup
  uncategorized called :=
    before.value?_write_of_mem (line.nodup_writes before) (mem_writes.mpr (.inr ⟨called, rfl⟩))
  kept key apart other := by
    refine Specification.value?_write_of_forall_ne fun w written => ?_
    rintro rfl
    rcases mem_writes.mp written with ⟨inhabited, rfl | ⟨key, named, rfl⟩⟩ | ⟨called, rfl⟩
    · exact (apart inhabited).1 rfl
    · exact (apart inhabited).2 named
    · exact other called rfl

end CategoryLine

end Reading

namespace Engine

open Reading (CategoryLine isUncategorized)

variable {e : Engine}

theorem lookup_category (standard : e.registry = .standard) :
    ∃ p, e.lookup "category" = .ok p ∧ ∀ spec text,
      Reading.change? e.settings e.host p spec text = Reading.category e.host spec text := by
  have known : ∃ p, Registry.standard.find? "category" = some p ∧
      p.handler = some .category ∧ p.richness = 0 ∧ p.permission = none :=
    ⟨_, rfl, rfl, rfl, rfl⟩
  obtain ⟨p, found, rules, level, free⟩ := known
  exact ⟨p, lookup_of_handler (by decide) (standard ▸ found) rules (level ▸ Nat.zero_le _) free⟩

/-- A text is one line of categories, and nothing else. It is refused if it is blank, or if it comes to no
category and does not call for pages without one, and then no value changes. Otherwise the query is
extended by the line. -/
theorem process_category (standard : e.registry = .standard) (pairs : List Pair) (text : String) :
    let before := e.run e.start pairs
    let after := e.process before "category" text
    ∃ line : CategoryLine e.host text, (∀ other, other = line) ∧
      (after.2 ≠ none ↔ Text.trimmed text.toList = [] ∨
        line.group = [] ∧ ∀ term ∈ line.terms, isUncategorized term = false) ∧
      (after.2 ≠ none → after.2 = some (.validation "category" text) ∧
        after.1.spec.values = before.spec.values) ∧
      (after.2 = none → line.Extends before.spec after.1.spec) := by
  intro before after
  have line := CategoryLine.read e.host text
  refine ⟨line, fun other => other.eq_read.trans line.eq_read.symm, ?_⟩
  obtain ⟨p, found, rules⟩ := lookup_category standard
  rw [← line.category_eq_none_iff before.spec, ← rules]
  cases taken : Reading.change? e.settings e.host p before.spec text with
  | none =>
    have refused : after = _ := process_of_refused found taken
    rw [refused]
    refine ⟨by simp, fun _ => ⟨?_, rfl⟩, by simp⟩
    rw [name_of_lookup found]
  | some change =>
    have accepted : after = _ := process_of_accepted found taken
    rw [rules] at taken
    -- What was gathered before is of the kind that the line adds to, as in any query that pairs come to.
    have written := line.writes_of_category taken
    obtain ⟨-, obeyed, -, -⟩ := domain_run standard pairs
    have effect := line.extends_write obeyed
    rw [accepted]
    refine ⟨by simp, by simp, fun _ => ?_⟩
    rw [← written] at effect
    exact ⟨effect.grouped, effect.headed, effect.uncategorized, effect.kept⟩

theorem process_category_animals :
    let site : Site := { categories := .ofList [("animals", ["cats", "dogs"]), ("cats", ["big cats"])] }
    let e : Engine := ⟨.standard, {}, site.host⟩
    let before := e.run e.start [("category", "+cats|zoo")]
    let after := e.process before "category" " +*animals &**cats&a&amp;b& _none_ &[]"
    after.2 = none ∧
      after.1.spec.value? "category" = some (.categories
        { allOf := [["Cats", "Dogs", "Animals", "Big_cats", "A&b"]], anyOf := [["Cats", "Zoo"]] }) ∧
      after.1.spec.value? "catheadings" =
        some (.list ["Cats", "Zoo", "Dogs", "Animals", "Big_cats", "A&b"]) ∧
      after.1.spec.value? "includeuncat" = some (.bool true) ∧
      (e.process before "category" "-[]|*<").2 = some (.validation "category" "-[]|*<") := by
  intro site e before after
  obtain ⟨line, only, taken, -, extended⟩ := process_category (e := e) rfl
    [("category", "+cats|zoo")] " +*animals &**cats&a&amp;b& _none_ &[]"
  obtain ⟨line', only', refused, answer, -⟩ := process_category (e := e) rfl
    [("category", "+cats|zoo")] "-[]|*<"
  obtain rfl := only (.read _ _)
  obtain rfl := only' (.read _ _)
  have accepted : after.2 = none :=
    by_contra fun held => absurd (taken.mp held) (by decide +kernel)
  have effect := extended accepted
  have group : (CategoryLine.read e.host " +*animals &**cats&a&amp;b& _none_ &[]").group =
      ["Cats", "Dogs", "Animals", "Big_cats", "A&b"] := by decide +kernel
  have inhabited := List.ne_nil_of_mem (group ▸ List.mem_cons_self)
  have held : before.spec.value? "category" = some (.categories { anyOf := [["Cats", "Zoo"]] }) ∧
      before.spec.value? "catheadings" = some (.list ["Cats", "Zoo"]) := by decide +kernel
  refine ⟨accepted, ?_, ?_, effect.uncategorized ⟨"_none_".toList, by decide +kernel, by decide⟩,
    (answer (refused.mpr (.inr (by decide +kernel)))).1⟩
  · obtain ⟨old, was, grouped⟩ := effect.grouped inhabited
    obtain ⟨selector, rfl, same⟩ := Option.map_eq_some_iff.mp (was.symm.trans held.1)
    obtain rfl := Value.categories.inj same
    rw [grouped, group]
    decide
  · obtain ⟨old, was, headed, -⟩ := effect.headed inhabited "catheadings" (by decide)
    obtain ⟨items, rfl, same⟩ := Option.map_eq_some_iff.mp (was.symm.trans held.2)
    obtain rfl := Value.list.inj same
    rw [headed, group]
    decide

end Engine

end WikiQuery
