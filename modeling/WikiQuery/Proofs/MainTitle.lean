import WikiQuery.Proofs.FirstLetter
import WikiQuery.Proofs.NamespacePrefix

/-!
Titles in the main namespace. Such a title is named by its text behind a colon, unless the text reads as
the name of another namespace in front of a colon. A text that did not read so before its first letter was
made a capital reads so afterwards only if the letter and the capital differ in lower case.
-/

set_option autoImplicit false

namespace WikiQuery

namespace Text

variable {c : Char} {cs : List Char}

theorem Tidy.normalizeSpaces_fromKey (tidy : Tidy cs) :
    normalizeSpaces (fromKey (String.ofList cs)) = String.ofList cs := by
  have plain : '_' ∉ (String.ofList cs).toList := by
    rw [String.toList_ofList]
    exact tidy.plain
  rw [fromKey_of_not_mem plain, normalizeSpaces, String.toList_ofList, tidy.spaced_eq]

theorem trimmed_cons_solid (solid : isBlank c = false) (cs : List Char) :
    trimmed (c :: cs) = c :: trimEnd cs := by
  have start := trimStart_append solid [] cs
  have finish := trimEnd_append solid [] cs
  rw [List.nil_append] at start finish
  rw [trimmed, start]
  exact finish

/-- A tidy text behind a colon is spaced as it stands. -/
theorem Tidy.spaced_cons_colon (tidy : Tidy cs) : spaced (':' :: cs) = ':' :: cs := by
  have solid : isBlank ':' = false := by decide
  have parts := spaced_append solid [] cs
  rw [List.nil_append, tidy.toNeat.joinBlanksFrom_eq (by simp),
    trimEnd_eq_self (trimmed_eq_self_iff.mp tidy.trim).2] at parts
  exact parts

end Text

namespace Namespace

variable {c : Char} {cs : List Char}

/-- All names of the table are in ASCII. -/
theorem names_ascii :
    (∀ entry ∈ aliases, ∀ c ∈ entry.1.toList, c.toNat < 0x80) ∧
    ∀ ns ∈ all, ∀ c ∈ ns.canonicalName.toList, c.toNat < 0x80 := by
  have others : ∀ entry ∈ aliases, entry.1.toList.all (·.toNat < 0x80) = true := by decide +kernel
  have canonical : ∀ ns ∈ all, ns.canonicalName.toList.all (·.toNat < 0x80) = true := by
    decide +kernel
  exact ⟨fun entry member c inside =>
      of_decide_eq_true (List.all_eq_true.mp (others entry member) c inside),
    fun ns member c inside =>
      of_decide_eq_true (List.all_eq_true.mp (canonical ns member) c inside)⟩

/-- A name that agrees with the same texts of ASCII as another names the same namespace. -/
theorem ofName?_congr {name other : String}
    (alike : ∀ known : String, (∀ c ∈ known.toList, c.toNat < 0x80) →
      Text.eqIgnoringCase known (Text.normalizeSpaces (Text.fromKey name)) =
        Text.eqIgnoringCase known (Text.normalizeSpaces (Text.fromKey other))) :
    ofName? name = ofName? other := by
  obtain ⟨others, canonical⟩ := names_ascii
  have first : aliases.find? (fun entry => Text.eqIgnoringCase entry.1
        (Text.normalizeSpaces (Text.fromKey name))) =
      aliases.find? fun entry => Text.eqIgnoringCase entry.1
        (Text.normalizeSpaces (Text.fromKey other)) :=
    List.find?_congr fun entry member => alike entry.1 (others entry member)
  have second : all.find? (fun ns => Text.eqIgnoringCase ns.canonicalName
        (Text.normalizeSpaces (Text.fromKey name))) =
      all.find? fun ns => Text.eqIgnoringCase ns.canonicalName
        (Text.normalizeSpaces (Text.fromKey other)) :=
    List.find?_congr fun ns member => alike ns.canonicalName (canonical ns member)
  unfold ofName?
  simp only [first, second]

theorem ofName?_capitalized (tidy : Text.Tidy (c :: cs)) (alike : Text.LowersAlike c) :
    ofName? (String.ofList (Text.capitalized (c :: cs))) = ofName? (String.ofList (c :: cs)) := by
  refine ofName?_congr fun known ascii => ?_
  rw [tidy.normalizeSpaces_fromKey, tidy.capitalized.normalizeSpaces_fromKey]
  exact Text.eqIgnoringCase_capitalized ascii alike cs

end Namespace

namespace Site

variable {c : Char} {cs : List Char}

/-- A tidy name is looked up alike with and without a capital, if its first letter lowers as the capital does. -/
theorem indexAmong_capitalized (own : List (String × Int)) (tidy : Text.Tidy (c :: cs))
    (alike : Text.LowersAlike c) :
    indexAmong own (String.ofList (Text.capitalized (c :: cs))) =
      indexAmong own (String.ofList (c :: cs)) := by
  unfold indexAmong
  rw [Namespace.ofName?_capitalized tidy alike, namespaceKey, namespaceKey,
    tidy.normalizeSpaces_fromKey, tidy.capitalized.normalizeSpaces_fromKey, Text.lower, Text.lower,
    String.toList_ofList, String.toList_ofList, Text.lowered_capitalized alike]

end Site

namespace Title

variable {lookup : String → Option Int} {title : Title} {c : Char} {cs : List Char}

/-- Whether a text begins with the prefix of another namespace than the main one: what stands in front of its
first colon is a name of one. Behind the colon may stand anything, and nothing too. -/
def HasPrefix (lookup : String → Option Int) (cs : List Char) : Prop :=
  ∃ before behind id, cs = before ++ ':' :: behind ∧ ':' ∉ before ∧
    lookup (String.ofList (Text.trimmed before)) = some id ∧ id ≠ Namespace.mainId

theorem divide_of_not_hasPrefix (plain : ¬HasPrefix lookup cs) :
    divide lookup cs = (Namespace.mainId, cs) := by
  unfold divide
  split
  · rfl
  · rename_i before behind cut
    obtain ⟨parts, undivided⟩ := Text.eq_of_cut?_eq_some cut
    split
    · rfl
    · rename_i id known
      split
      · rfl
      · rename_i other
        exact absurd ⟨before, behind, id, parts, undivided, known, other⟩ plain

theorem fst_divide_eq_mainId_iff :
    (divide lookup cs).1 = Namespace.mainId ↔ ¬HasPrefix lookup cs := by
  constructor
  · rintro main ⟨before, behind, id, rfl, undivided, known, other⟩
    rw [divide_prefixed undivided known other] at main
    exact other main
  · intro plain
    rw [divide_of_not_hasPrefix plain]

/-- The text of a title in the main namespace is the capital of a plain text without a prefix. -/
theorem exists_plainText_of_read? {text : String} (read : read? lookup text = some title)
    (inside : title.namespaceId = Namespace.mainId) :
    plainText text ≠ [] ∧ ¬HasPrefix lookup (plainText text) ∧
      title.text = String.ofList (Text.capitalized (plainText text)) := by
  obtain ⟨⟨inhabited, -⟩, -, same⟩ := read?_eq_some_iff.mp read
  simp only [same] at inside ⊢
  have plain := fst_divide_eq_mainId_iff.mp inside
  refine ⟨inhabited, plain, ?_⟩
  rw [divide_of_not_hasPrefix plain]

/-- What is in the form of titles names, behind a colon, the title of the main namespace with that text if and
only if it has no prefix. -/
theorem read?_colon_iff (form : IsText title.text.toList)
    (inside : title.namespaceId = Namespace.mainId) (fits : byteCount title.text.toList ≤ maxBytes) :
    read? lookup (":" ++ title.text) = some title ↔ ¬HasPrefix lookup title.text.toList := by
  have plain : plainText (":" ++ title.text) = title.text.toList := by
    have spelled : (Text.fromKey (":" ++ title.text)).toList = ':' :: title.text.toList := by
      rw [Text.fromKey_append, Text.fromKey_of_not_mem form.plain, String.toList_append]
      rfl
    rw [plainText_eq, spelled, form.toTidy.spaced_cons_colon, withoutColon,
      Text.trimStart_eq_self (Text.trimmed_eq_self_iff.mp form.trim).1, withoutFragment,
      Text.cut?_eq_none_iff.mpr form.unmarked]
  rw [read?_eq_some_iff, plain]
  constructor
  · rintro ⟨-, -, same⟩
    exact fst_divide_eq_mainId_iff.mp ((congrArg namespaceId same).symm.trans inside)
  · intro alone
    rw [divide_of_not_hasPrefix alone, form.capital, String.ofList_toList, ← inside]
    exact ⟨⟨form.inhabited, form.legal⟩, ⟨form.inhabited, fits⟩, rfl⟩

end Title

namespace Site

variable {site : Site} {text : String} {title : Title} {c : Char} {cs : List Char}

/-- A capital that has the lower case of the letter brings no prefix about. -/
theorem not_hasPrefix_capitalized (own : List (String × Int)) (tidy : Text.Tidy (c :: cs))
    (alike : Text.LowersAlike c) (plain : ¬Title.HasPrefix (indexAmong own) (c :: cs)) :
    ¬Title.HasPrefix (indexAmong own) (Text.capitalized (c :: cs)) := by
  obtain ⟨d, upper, -⟩ := alike.exists_upperChar_eq
  have solid := (Text.trimmed_eq_self_iff.mp tidy.trim).1 c rfl
  have solid' : Text.isBlank d = false :=
    Text.isBlank_of_mem_upperChar (by rw [upper]; exact List.mem_singleton_self d) solid
  rintro ⟨before, behind, id, parts, undivided, known, other⟩
  rw [Text.capitalized, upper, List.singleton_append] at parts
  cases before with
  | nil =>
    -- Nothing in front of the colon is the name of the main namespace.
    have main : indexAmong own "" = some Namespace.mainId := indexAmong_of_blank own (by decide)
    exact other (Option.some.inj (known.symm.trans main))
  | cons d' ds =>
    obtain ⟨rfl, rfl⟩ := List.cons.inj parts
    rw [List.mem_cons, not_or] at undivided
    have first : c ≠ ':' := by
      rintro rfl
      have same : Text.upperChar ':' = [':'] := by decide +kernel
      exact undivided.1 (List.singleton_inj.mp (same.symm.trans upper))
    have name : Text.Tidy (c :: Text.trimEnd ds) := by
      rw [← Text.trimmed_cons_solid solid]
      exact (tidy.toNeat.of_infix (List.prefix_append (c :: ds) _).isInfix).tidy_trimmed
    refine plain ⟨c :: ds, behind, id, rfl, ?_, ?_, other⟩
    · rw [List.mem_cons, not_or]
      exact ⟨first.symm, undivided.2⟩
    · rw [Text.trimmed_cons_solid solid, ← indexAmong_capitalized own name alike, Text.capitalized,
        upper, List.singleton_append, ← Text.trimmed_cons_solid solid']
      exact known

/-- A title in the main namespace that is not too long is named by its text behind a colon if and only if the
text does not begin with a prefix; and it begins with none if the first letter, as it was written, and its
capital have one lower case. -/
theorem resolveTitle_colon (resolved : site.resolveTitle text = some title)
    (inside : title.namespaceId = Namespace.mainId) (fits : title.text.utf8ByteSize ≤ 255) :
    (site.resolveTitle (":" ++ title.text) = some title ↔
      ¬Title.HasPrefix site.namespaceIndex title.text.toList) ∧
    ((∀ c ∈ (Title.plainText text).head?, Text.LowersAlike c) →
      site.resolveTitle (":" ++ title.text) = some title ∧
        ¬Title.HasPrefix site.namespaceIndex title.text.toList) := by
  rw [← Title.byteCount_toList] at fits
  have named : site.resolveTitle (":" ++ title.text) = some title ↔
      ¬Title.HasPrefix site.namespaceIndex title.text.toList :=
    Title.read?_colon_iff (Title.isText_of_read? resolved) inside fits
  obtain ⟨inhabited, plain, letters⟩ := Title.exists_plainText_of_read? resolved inside
  refine ⟨named, fun alike => ?_⟩
  have alone : ¬Title.HasPrefix (indexAmong site.ownNamespaces) title.text.toList := by
    have tidy := Title.tidy_plainText text
    obtain ⟨c, cs, written⟩ := List.exists_cons_of_ne_nil inhabited
    rw [written] at alike plain letters tidy
    rw [letters, String.toList_ofList]
    exact not_hasPrefix_capitalized site.ownNamespaces tidy (alike c rfl) plain
  exact ⟨named.mpr alone, alone⟩

/-- The letter ǆ and its capital have one lower case; ß becomes SS, which a wiki's own name begins with. -/
theorem resolveTitle_colon_sharp :
    let site : Site := { customNamespaces := [⟨"SSa", 3000⟩] }
    let kept : Title := ⟨Namespace.mainId, "Ǆ b:c"⟩
    let changed : Title := ⟨Namespace.mainId, "SSa:b"⟩
    site.resolveTitle "ǆ_b:c#d" = some kept ∧ Text.LowersAlike 'ǆ' ∧
      site.resolveTitle (":" ++ kept.text) = some kept ∧
      site.resolveTitle "ßa:b" = some changed ∧
      Title.HasPrefix site.namespaceIndex changed.text.toList ∧
      site.resolveTitle (":" ++ changed.text) ≠ some changed := by
  intro site kept changed
  have resolved : site.resolveTitle "ǆ_b:c#d" = some kept := by decide +kernel
  have first : (Title.plainText "ǆ_b:c#d").head? = some 'ǆ' := by decide +kernel
  have alike : Text.LowersAlike 'ǆ' := by decide +kernel
  have named := (resolveTitle_colon resolved rfl (by decide)).2 fun c member =>
    Option.some.inj (first.symm.trans member) ▸ alike
  have resolved' : site.resolveTitle "ßa:b" = some changed := by decide +kernel
  have read : Title.HasPrefix site.namespaceIndex changed.text.toList :=
    ⟨"SSa".toList, "b".toList, 3000, by decide, by decide, by decide +kernel, by decide⟩
  have other := (resolveTitle_colon resolved' rfl (by decide)).1
  exact ⟨resolved, alike, named.1, resolved', read, fun same => other.mp same read⟩

/-- The capital of the dotless ı is the capital of i, and makes a name of the files' namespace. So the title is
read as another page, or as none if nothing stands behind the colon. -/
theorem resolveTitle_colon_dotless :
    let site : Site := {}
    let title : Title := ⟨Namespace.mainId, "Image:Foo"⟩
    let bare : Title := ⟨Namespace.mainId, "Image:"⟩
    site.resolveTitle "ımage:Foo" = some title ∧ title.text.utf8ByteSize ≤ 255 ∧
      site.resolveTitle (":" ++ title.text) = some ⟨Namespace.file.id, "Foo"⟩ ∧
      site.resolveTitle "ımage:" = some bare ∧ bare.text.utf8ByteSize ≤ 255 ∧
      site.resolveTitle (":" ++ bare.text) = none := by
  decide +kernel

end Site

end WikiQuery
