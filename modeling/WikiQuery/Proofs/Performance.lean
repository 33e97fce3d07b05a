import WikiQuery.Procedure.Parameter
import WikiQuery.Proofs.TableLoop
import WikiQuery.Reading

/-!
What the steps come to by which a parameter is read. A procedure that takes its text has made the change
that is laid down for it, and one that refuses it has written nothing by then: each of them has made all its
checks before it writes, or makes none behind what it has written.
-/

set_option autoImplicit false

namespace WikiQuery.Procedure

/-- A procedure makes a change where there is one to make, and refuses where there is none. It has changed
nothing where it refuses. -/
def Performs (procedure : Procedure Bool) (change? : Specification → Option Change) : Prop :=
  ∀ s, procedure.run s =
    match change? s.spec with
    | none => (false, s)
    | some change => (true, s.apply change)

theorem Performs.unchanged_of_refused {procedure : Procedure Bool}
    {change? : Specification → Option Change} (h : Performs procedure change?) {s : Session}
    (refused : (procedure.run s).1 = false) : change? s.spec = none ∧ (procedure.run s).2 = s := by
  have run := h s
  cases made : change? s.spec with
  | none =>
    rw [made] at run
    exact ⟨rfl, congrArg Prod.snd run⟩
  | some change =>
    rw [made] at run
    cases (congrArg Prod.fst run).symm.trans refused

theorem run_query_bind {α : Type} (next : Specification → Procedure α) (s : Session) :
    (query >>= next).run s = (next s.spec).run s := by
  rw [StateT.run_bind]
  rfl

theorem run_write_bind {α : Type} (key : String) (value : Value) (next : Unit → Procedure α)
    (s : Session) : (write key value >>= next).run s = (next ()).run (s.write [(key, value)]) := by
  rw [StateT.run_bind]
  rfl

theorem run_offer_bind {α : Type} (key : String) (value : Option Value) (next : Unit → Procedure α)
    (s : Session) :
    (offer key value >>= next).run s = (next ()).run (s.write (value.map (Prod.mk key)).toList) := by
  cases value with
  | none => rfl
  | some value => rfl

/-- Items that are put behind a list one after the other are put there each once. -/
theorem foldl_pushNew (old items : List String) :
    items.foldl pushNew old = Reading.withNew old items := by
  induction items generalizing old with
  | nil => simp [Reading.withNew]
  | cons item items ih =>
    rw [List.foldl_cons, ih, pushNew, Reading.withNew, Reading.withNew, List.filter_cons]
    cases there : old.contains item with
    | true => simp only [Bool.not_true, Bool.false_eq_true, if_true, if_false]
    | false =>
      have later : (items.filter fun other => !(old ++ [item]).contains other) =
          (items.filter fun other => !old.contains other).filter fun other => !other == item := by
        rw [List.filter_filter]
        refine List.filter_congr fun other _ => ?_
        rw [List.contains_append, Bool.not_or, Bool.and_comm, List.contains_cons, List.contains_nil,
          Bool.or_false]
      simp only [Bool.not_false, Bool.false_eq_true, if_true, if_false, later, List.eraseDups_cons,
        List.append_assoc, List.singleton_append]

/-- The terms of a line, gone through one after the other, call for the group of them. -/
theorem foldl_add (host : Host) (terms : List (List Char)) :
    terms.foldl (Gathered.add host) {} =
      ⟨Reading.groupOf host terms, terms.any Reading.isUncategorized⟩ := by
  suffices h : ∀ gathered : Gathered, terms.foldl (Gathered.add host) gathered =
      ⟨((terms.filter fun term => !Reading.isUncategorized term).flatMap
          (Reading.membersOf host)).foldl pushNew gathered.categories,
        gathered.uncategorized || terms.any Reading.isUncategorized⟩ by
    rw [h, foldl_pushNew, Reading.withNew, List.filter_eq_self.mpr, Bool.false_or]
    · rfl
    · exact fun _ _ => rfl
  intro gathered
  induction terms generalizing gathered with
  | nil => simp
  | cons term terms ih =>
    rw [List.foldl_cons, ih]
    cases none : Reading.isUncategorized term with
    | true => simp [Gathered.add, none]
    | false => simp [Gathered.add, none]

section Selection

theorem run_appendNew (key : String) (items : List String) (s : Session) :
    (appendNew key items).run s =
      ((), s.write [(key, .list (Reading.withNew ((s.spec.list? key).getD []) items))]) := by
  rw [← foldl_pushNew]
  rfl

/-- The list of headings is another one than that of the categories, which is written before it. -/
theorem run_addGroup {line : List Char} (isAnd : Bool) (group : List String) (s : Session) :
    (addGroup (Reading.headingOf line).1 isAnd group).run s =
      ((), s.write (Reading.groupWrites s.spec (Reading.headingOf line).1 isAnd group)) := by
  unfold addGroup Reading.groupWrites
  cases group.isEmpty with
  | true => rfl
  | false =>
    cases heading : (Reading.headingOf line).1 with
    | none => rfl
    | some key =>
      have other : "category" ≠ key := by
        unfold Reading.headingOf at heading
        split at heading <;> cases heading <;> decide
      have kept (value : Value) :
          (s.spec.write [("category", value)]).list? key = s.spec.list? key := by
        rw [Specification.list?, Specification.value?_write_singleton, if_neg other]
        rfl
      change (appendNew key group).run (s.write [("category", _)]) = _
      rw [run_appendNew, Session.spec_write, kept, Session.write_write]
      rfl

theorem performs_category (host : Host) (text : String) :
    Performs (category host text) fun spec => Reading.category host spec text := by
  intro s
  unfold category Reading.category
  simp only [foldl_add]
  cases (Text.trimmed text.toList).isEmpty with
  | true => rfl
  | false =>
    generalize Reading.termsOf (Reading.headingOf (Text.trimmed text.toList)).2 = terms
    simp only [Bool.false_eq_true, if_false]
    split
    · rfl
    · rw [StateT.run_bind, run_addGroup]
      cases terms.2.any Reading.isUncategorized with
      | true => exact congrArg (Prod.mk true) (s.write_write _ [("includeuncat", .bool true)])
      | false => exact congrArg (Prod.mk true) (s.write_write _ [])

theorem performs_notCategory (host : Host) (text : String) :
    Performs (notCategory host text) fun spec => Reading.notCategory host spec text := by
  intro s
  unfold notCategory Reading.notCategory
  cases host.resolveTitle (String.ofList (Text.decoded (Text.trimmed text.toList))) with
  | none => rfl
  | some title => rfl

theorem performs_categoryPattern (side : Side) (kind : PatternKind) (text : String) :
    Performs (categoryPattern side kind text) fun spec =>
      Reading.categoryPattern side kind spec text :=
  fun _ => rfl

theorem performs_title (host : Host) (text : String) :
    Performs (title host text) fun spec => Reading.title host spec text := by
  intro s
  unfold title Reading.title
  cases host.resolveTitle text with
  | none => rfl
  | some title => rfl

theorem performs_notTitle (host : Host) (text : String) :
    Performs (notTitle host text) fun spec => Reading.notTitle host spec text := by
  intro s
  unfold notTitle Reading.notTitle
  cases host.resolveTitle text with
  | none => rfl
  | some title => rfl

theorem performs_titlePattern (side : Side) (kind : PatternKind) (text : String) :
    Performs (titlePattern side kind text) fun spec => Reading.titlePattern side kind spec text := by
  intro s
  unfold titlePattern Reading.titlePattern
  cases blank : (Reading.titlePatterns text).isEmpty with
  | true => simp only [blank]; rfl
  | false => simp only [blank]; rfl

theorem performs_inNamespace (side : Side) (settings : Settings) (host : Host) (text : String) :
    Performs (inNamespace side settings host text) fun spec =>
      Reading.inNamespace side settings host spec text := by
  intro s
  unfold inNamespace Reading.inNamespace
  cases ((Text.split '|' text).map Text.trim).mapM (Reading.allowedNamespace? settings host) with
  | none => rfl
  | some ids => rfl

end Selection

section Listing

/-- The conflict is noted before the order is written, and behind both there is no check. -/
theorem performs_orderMethod (p : Parameter) (text : String) :
    Performs (orderMethod p text) fun _ => Reading.orderMethod p text := by
  intro s
  simp only [orderMethod, Reading.orderMethod]
  cases (Reading.items ',' (Text.lower text)).all p.namedValues.contains with
  | false => rfl
  | true =>
    cases (Reading.items ',' (Text.lower text)).head? != some "none" with
    | true => rfl
    | false => rfl

theorem performs_mode (p : Parameter) (text : String) :
    Performs (mode p text) fun _ => Reading.mode p text := by
  intro s
  simp only [mode, Reading.mode]
  cases p.namedValues.contains (Text.lower (Text.trim text)) with
  | false => rfl
  | true =>
    by_cases inline : Text.lower (Text.trim text) = "none"
    · simp only [if_pos inline]
      rfl
    · by_cases own : Text.lower (Text.trim text) = "userformat"
      · simp only [if_neg inline, if_pos own]
        rfl
      · simp only [if_neg inline, if_neg own]
        rfl

theorem performs_distinct (text : String) :
    Performs (distinct text) fun _ => Reading.distinct text := by
  intro s
  simp only [distinct, Reading.distinct]
  by_cases strict : Text.lower (Text.trim text) = "strict"
  · simp only [if_pos strict]
    rfl
  · simp only [if_neg strict]
    cases Text.truth? (Text.lower (Text.trim text)) with
    | none => rfl
    | some truth => rfl

theorem performs_openReferences (text : String) :
    Performs (openReferences text) fun _ => Reading.openReferences text := by
  intro s
  simp only [openReferences, Reading.openReferences]
  by_cases missing : Text.lower (Text.trim text) = "missing"
  · simp only [if_pos missing]
    rfl
  · simp only [if_neg missing]
    cases Text.truth? (Text.lower (Text.trim text)) with
    | none => rfl
    | some truth => rfl

theorem performs_orderCollation (text : String) :
    Performs (orderCollation text) fun _ => Reading.orderCollation text := by
  intro s
  simp only [orderCollation, Reading.orderCollation]
  cases (Text.trim text).isEmpty with
  | true => rfl
  | false =>
    cases Text.eqIgnoringCase (Text.trim text) "bridge" with
    | true => rfl
    | false => rfl

theorem performs_format (text : String) :
    Performs (format text) fun _ => Reading.format text :=
  fun _ => rfl

theorem performs_flagSet (p : Parameter) (text : String) :
    Performs (flagSet p text) fun spec => Reading.flagSet p spec text := by
  intro s
  simp only [flagSet, Reading.flagSet]
  generalize (Reading.items ',' (Text.lower text)).filter (fun word => !word.isEmpty) = words
  cases words.isEmpty || !words.all p.namedValues.contains with
  | true => rfl
  | false => rfl

theorem performs_replaceInTitle (text : String) :
    Performs (replaceInTitle text) fun _ => Reading.replaceInTitle text := by
  intro s
  simp only [replaceInTitle, Reading.replaceInTitle]
  cases Text.splitAtMost ',' 1 text with
  | nil => rfl
  | cons pattern replacement =>
    dsimp only
    cases Text.isBlankText pattern with
    | true => rfl
    | false => rfl

theorem run_offerLowerBound_bind (host : Host) (next : Unit → Procedure Bool) (s : Session) :
    (offerLowerBound host >>= next).run s = (next ()).run
      (s.write ((Reading.lowerBound? host).map fun key => ("titlegt", .text key)).toList) := by
  unfold offerLowerBound Reading.lowerBound?
  cases Reading.requested? host "DPL_findTitle" with
  | some title => rfl
  | none => simp only [run_offer_bind, Option.map_map, Function.comp_def]

/-- What the request asks for is written after it is written that it is asked; each part of it is offered, and
none is refused. -/
theorem performs_scroll (settings : Settings) (host : Host) (text : String) :
    Performs (scroll settings host text) fun _ => Reading.scroll settings host text := by
  intro s
  unfold scroll Reading.scroll
  cases Text.truth? text with
  | none => rfl
  | some enabled =>
    cases enabled with
    | false => rfl
    | true =>
      dsimp only [Option.map_some]
      simp only [Bool.not_true, Bool.false_eq_true, if_false, if_true, run_write_bind,
        run_offerLowerBound_bind, run_offer_bind, Session.write_write, Option.map_map,
        Session.apply_of_writes, Reading.scrollWrites]
      rfl

theorem performs_allowCachedResults (text : String) :
    Performs (allowCachedResults text) fun spec => Reading.allowCachedResults spec text := by
  intro s
  simp only [allowCachedResults, Reading.allowCachedResults, run_query_bind]
  by_cases kept : (s.spec.value? "execandexit").isSome = true
  · simp only [if_pos kept]
    rfl
  · by_cases warned : Text.lower (Text.trim text) = "yes+warn"
    · simp only [if_neg kept, if_pos warned]
      rfl
    · simp only [if_neg kept, if_neg warned]
      cases Text.truth? (Text.lower (Text.trim text)) with
      | none => rfl
      | some allowed => rfl

theorem performs_count (settings : Settings) (text : String) :
    Performs (count settings text) fun _ => Reading.count settings text := by
  intro s
  unfold count Reading.count
  cases Reading.resultCount? settings text with
  | none => rfl
  | some n => rfl

theorem performs_debug (p : Parameter) (text : String) :
    Performs (debug p text) fun _ => Reading.debug p text := by
  intro s
  simp only [debug, Reading.debug]
  cases p.namedValues.contains (Text.trim text) with
  | false => rfl
  | true =>
    cases Number.byte? (Text.trim text) with
    | none => rfl
    | some level => rfl

end Listing

section Section

theorem performs_sections (text : String) :
    Performs (sections text) fun _ => Reading.sections text := by
  intro s
  simp only [sections, Reading.sections]
  cases Text.isBlankText text with
  | true => rfl
  | false => rfl

theorem performs_sectionMatch (parsed negated : Bool) (text : String) :
    Performs (sectionMatch parsed negated text) fun _ =>
      Reading.sectionMatch parsed negated text := by
  intro s
  simp only [sectionMatch, Reading.sectionMatch]
  cases parsed with
  | true => rfl
  | false => rfl

theorem performs_separators (key text : String) :
    Performs (separators key text) fun _ => Reading.separators key text :=
  fun _ => rfl

theorem performs_tableRow (text : String) :
    Performs (tableRow text) fun _ => Reading.tableRow text :=
  fun _ => rfl

theorem performs_table (text : String) :
    Performs (table text) fun spec => Reading.table spec text := by
  intro s
  obtain ⟨tableClass, cells, divided⟩ := List.exists_cons_of_ne_nil (Text.split_ne_nil ',' text)
  unfold table Reading.table
  dsimp only
  rw [run_query_bind, divided, Table.Head.ofCells_cons, Table.Separators.lay_eq]
  cases ((s.spec.list? "seclabels").getD []).isEmpty with
  | true =>
    simp only [Bool.not_true, Bool.false_eq_true, if_false, if_true, run_write_bind,
      Session.write_write, Session.apply_of_writes]
    rfl
  | false =>
    simp only [Bool.not_false, Bool.false_eq_true, if_false, if_true, run_write_bind,
      Session.write_write, Session.apply_of_writes]
    rfl

end Section

/-- Whatever its rules, a parameter makes its change or leaves the query as it was. -/
theorem performs_handled (settings : Settings) (host : Host) (p : Parameter) (text : String)
    (rules : Handler) :
    Performs (handled settings host p text rules) fun spec =>
      Reading.handled? settings host p spec text rules := by
  cases rules with
  | category => exact performs_category host text
  | notCategory => exact performs_notCategory host text
  | categoryPattern side kind => exact performs_categoryPattern side kind text
  | orderMethod => exact performs_orderMethod p text
  | mode => exact performs_mode p text
  | distinct => exact performs_distinct text
  | orderCollation => exact performs_orderCollation text
  | format => exact performs_format text
  | title => exact performs_title host text
  | notTitle => exact performs_notTitle host text
  | titlePattern side kind => exact performs_titlePattern side kind text
  | inNamespace side => exact performs_inNamespace side settings host text
  | scroll => exact performs_scroll settings host text
  | allowCachedResults => exact performs_allowCachedResults text
  | flagSet => exact performs_flagSet p text
  | sections => exact performs_sections text
  | sectionMatch parsed negated => exact performs_sectionMatch parsed negated text
  | table => exact performs_table text
  | tableRow => exact performs_tableRow text
  | sectionSeparators => exact performs_separators "secseparators" text
  | multiSectionSeparators => exact performs_separators "multisecseparators" text
  | count => exact performs_count settings text
  | debug => exact performs_debug p text
  | openReferences => exact performs_openReferences text
  | replaceInTitle => exact performs_replaceInTitle text

theorem performs_staged (host : Host) (p : Parameter) (text : String) :
    Performs (staged host p text) fun spec =>
      (Reading.staged? host p spec text).map fun value => { writes := [(p.name, value)] } := by
  intro s
  simp only [staged, run_query_bind]
  cases Reading.staged? host p s.spec text with
  | none => rfl
  | some value => rfl

theorem performs_parameter (settings : Settings) (host : Host) (p : Parameter) (text : String) :
    Performs (parameter settings host p text) fun spec =>
      Reading.change? settings host p spec text := by
  unfold parameter Reading.change?
  cases p.handler with
  | some rules => exact performs_handled settings host p text rules
  | none => exact performs_staged host p text

end WikiQuery.Procedure
