import WikiQuery.Proofs.TitleText

/-!
Names of namespaces in front of titles. The spelling of a name does not count, whether the name is
looked up by itself or stands in front of a colon, so a namespace means the same in both places.
-/

set_option autoImplicit false

namespace WikiQuery

namespace Text

variable {sep c : Char} {cs ds : List Char}

/-- A character that is no white space ends the run that is under way. -/
theorem joinBlanksFrom_append (solid : isBlank sep = false) (afterBlank : Bool)
    (cs ds : List Char) :
    joinBlanksFrom afterBlank (cs ++ sep :: ds) =
      joinBlanksFrom afterBlank cs ++ sep :: joinBlanksFrom false ds := by
  induction cs generalizing afterBlank with
  | nil => simp [joinBlanksFrom, solid]
  | cons c cs ih =>
    rw [List.cons_append, joinBlanksFrom, joinBlanksFrom]
    split
    · split
      · exact ih true
      · rw [ih true, List.cons_append]
    · rw [ih false, List.cons_append]

theorem trimStart_append (solid : isBlank sep = false) (cs ds : List Char) :
    trimStart (cs ++ sep :: ds) = trimStart cs ++ sep :: ds := by
  induction cs with
  | nil => simp [trimStart, solid]
  | cons c cs ih =>
    rw [List.cons_append, trimStart_cons, trimStart_cons, ih]
    split
    · rfl
    · rfl

theorem trimEnd_append (solid : isBlank sep = false) (cs ds : List Char) :
    trimEnd (cs ++ sep :: ds) = cs ++ sep :: trimEnd ds := by
  induction cs with
  | nil => simp [trimEnd_cons, solid]
  | cons c cs ih => simp [trimEnd_cons, ih]

/-- On either side of a character that is no white space, a text is spaced by itself. -/
theorem spaced_append (solid : isBlank sep = false) (cs ds : List Char) :
    spaced (cs ++ sep :: ds) =
      trimStart (joinBlanksFrom false cs) ++ sep :: trimEnd (joinBlanksFrom false ds) := by
  rw [spaced, joinBlanksFrom_append solid, trimmed, trimStart_append solid, trimEnd_append solid]

theorem mem_joinBlanksFrom {afterBlank : Bool} (member : c ∈ joinBlanksFrom afterBlank cs) :
    c = ' ' ∨ c ∈ cs ∧ isBlank c = false := by
  induction cs generalizing afterBlank with
  | nil => simp [joinBlanksFrom] at member
  | cons d cs ih =>
    have later : ∀ {afterBlank}, c ∈ joinBlanksFrom afterBlank cs →
        c = ' ' ∨ c ∈ d :: cs ∧ isBlank c = false := fun member =>
      (ih member).imp_right fun there => ⟨List.mem_cons_of_mem d there.1, there.2⟩
    rw [joinBlanksFrom] at member
    split at member
    · split at member
      · exact later member
      · exact (List.mem_cons.mp member).elim .inl later
    · rename_i solid
      rcases List.mem_cons.mp member with rfl | member
      · exact .inr ⟨List.mem_cons_self, Bool.eq_false_iff.mpr solid⟩
      · exact later member

theorem mem_fromKey {s : String} (member : c ∈ (fromKey s).toList) : c = ' ' ∨ c ∈ s.toList := by
  rw [toList_fromKey] at member
  obtain ⟨d, there, rfl⟩ := List.mem_map.mp member
  split
  · exact .inl rfl
  · exact .inr there

/-- A text in spaces as it stands in front of a colon: only its start is trimmed. -/
def frontSpaced (s : String) : List Char :=
  trimStart (joinBlanksFrom false (fromKey s).toList)

/-- A text in spaces as it stands behind a colon: only its end is trimmed. -/
def backSpaced (s : String) : List Char :=
  trimEnd (joinBlanksFrom false (fromKey s).toList)

theorem trimmed_frontSpaced (s : String) :
    trimmed (frontSpaced s) = spaced (fromKey s).toList := by
  rw [frontSpaced, trimmed, trimStart_trimStart, spaced, trimmed]

theorem trimmed_backSpaced (s : String) : trimmed (backSpaced s) = spaced (fromKey s).toList := by
  rw [backSpaced, trimmed, trimStart_trimEnd, trimEnd_trimEnd, spaced, trimmed]

theorem spaced_fromKey_append_colon (s t : String) :
    spaced (fromKey (s ++ ":" ++ t)).toList = frontSpaced s ++ ':' :: backSpaced t := by
  rw [fromKey_append, fromKey_append, String.toList_append, String.toList_append,
    List.append_assoc]
  exact spaced_append (by decide) _ _

private theorem mem_spaced_cases {s : String}
    (member : c ∈ joinBlanksFrom false (fromKey s).toList) :
    c = ' ' ∨ c ∈ s.toList ∧ isBlank c = false := by
  rcases mem_joinBlanksFrom member with space | ⟨there, solid⟩
  · exact .inl space
  · exact (mem_fromKey there).imp_right fun inside => ⟨inside, solid⟩

theorem mem_frontSpaced {s : String} (member : c ∈ frontSpaced s) :
    c = ' ' ∨ c ∈ s.toList ∧ isBlank c = false :=
  mem_spaced_cases ((List.dropWhile_sublist _).subset member)

theorem mem_backSpaced {s : String} (member : c ∈ backSpaced s) :
    c = ' ' ∨ c ∈ s.toList ∧ isBlank c = false :=
  mem_spaced_cases ((trimEnd_sublist _).subset member)

theorem toList_normalizeSpaces (s : String) : (normalizeSpaces s).toList = spaced s.toList :=
  String.toList_ofList

/-- A name that was brought into spaces once stays as it is. -/
theorem normalizeSpaces_fromKey_normalizeSpaces (s : String) :
    normalizeSpaces (fromKey (normalizeSpaces (fromKey s))) = normalizeSpaces (fromKey s) := by
  have tidy := tidy_spaced_fromKey s
  rw [← toList_normalizeSpaces] at tidy
  rw [fromKey_of_not_mem tidy.plain, ← String.toList_inj, toList_normalizeSpaces, tidy.spaced_eq]

end Text

namespace Title

open Text (frontSpaced backSpaced)

variable {lookup : String → Option Int} {name text : String} {front back : List Char} {id : Int}

/-- Whether a text can stand in a title: it begins no fragment, and of the characters that no title holds
it has none but white space, which is read as spaces. -/
def IsWritable (cs : List Char) : Prop :=
  ∀ c ∈ cs, c ≠ '#' ∧ (isIllegal c = true → Text.isBlank c = true)

instance (cs : List Char) : Decidable (IsWritable cs) :=
  List.decidableBAll (fun c => c ≠ '#' ∧ (isIllegal c = true → Text.isBlank c = true)) cs

/-- In spaces a text that can stand in a title holds nothing that a title does not. -/
theorem IsWritable.legible (writable : IsWritable text.toList) {c : Char}
    (member : c = ' ' ∨ c ∈ text.toList ∧ Text.isBlank c = false) :
    c ≠ '#' ∧ isIllegal c = false := by
  rcases member with rfl | ⟨inside, solid⟩
  · decide
  · refine ⟨(writable c inside).1, Bool.eq_false_iff.mpr fun illegal => ?_⟩
    rw [(writable c inside).2 illegal] at solid
    cases solid

/-- A name and a text with a colon between them are read each by itself, but for the white space next to
the colon. -/
theorem plainText_prefixed (given : Text.spaced (Text.fromKey name).toList ≠ [])
    (undivided : ':' ∉ frontSpaced name) (unmarked : '#' ∉ frontSpaced name ++ ':' :: backSpaced text) :
    plainText (name ++ ":" ++ text) = frontSpaced name ++ ':' :: backSpaced text := by
  have colonless : withoutColon (frontSpaced name ++ ':' :: backSpaced text) =
      frontSpaced name ++ ':' :: backSpaced text := by
    cases started : frontSpaced name with
    | nil =>
      rw [← Text.trimmed_frontSpaced, started] at given
      exact absurd rfl given
    | cons c cs =>
      rw [started, List.mem_cons, not_or] at undivided
      unfold withoutColon
      split
      · rename_i same
        exact absurd (List.cons.inj same).1.symm undivided.1
      · rfl
  rw [plainText_eq, Text.spaced_fromKey_append_colon, colonless, withoutFragment,
    Text.cut?_eq_none_iff.mpr unmarked]

theorem divide_prefixed (undivided : ':' ∉ front)
    (named : lookup (String.ofList (Text.trimmed front)) = some id) (other : id ≠ Namespace.mainId) :
    divide lookup (front ++ ':' :: back) = (id, Text.trimmed back) := by
  rw [divide, Text.cut?_append undivided]
  simp only [named, if_neg other]

/-- A text behind the name of a namespace and a colon names the title of that namespace with that text. -/
theorem read?_prefixed
    (named : lookup (Text.normalizeSpaces (Text.fromKey name)) = some id)
    (other : id ≠ Namespace.mainId) (given : Text.spaced (Text.fromKey name).toList ≠ [])
    (undivided : ':' ∉ name.toList) (writable : IsWritable name.toList)
    (writable' : IsWritable text.toList) (inhabited : Text.spaced (Text.fromKey text).toList ≠ [])
    (fits : byteCount (Text.spaced (Text.fromKey text).toList) ≤ maxBytes) :
    read? lookup (name ++ ":" ++ text) =
      some ⟨id, String.ofList (Text.capitalized (Text.spaced (Text.fromKey text).toList))⟩ := by
  have legible : ∀ c ∈ frontSpaced name ++ ':' :: backSpaced text, c ≠ '#' ∧ isIllegal c = false := by
    intro c member
    rcases List.mem_append.mp member with here | there
    · exact writable.legible (Text.mem_frontSpaced here)
    · rcases List.mem_cons.mp there with rfl | there
      · decide
      · exact writable'.legible (Text.mem_backSpaced there)
  have undivided' : ':' ∉ frontSpaced name := fun member =>
    (Text.mem_frontSpaced member).elim (by decide) fun there => undivided there.1
  have plain : plainText (name ++ ":" ++ text) = frontSpaced name ++ ':' :: backSpaced text :=
    plainText_prefixed given undivided' fun mark => (legible _ mark).1 rfl
  have divided : divide lookup (frontSpaced name ++ ':' :: backSpaced text) =
      (id, Text.spaced (Text.fromKey text).toList) := by
    have key : String.ofList (Text.trimmed (frontSpaced name)) =
        Text.normalizeSpaces (Text.fromKey name) := by
      rw [Text.trimmed_frontSpaced, Text.normalizeSpaces]
    rw [← Text.trimmed_backSpaced]
    exact divide_prefixed undivided' (key ▸ named) other
  have legal : (frontSpaced name ++ ':' :: backSpaced text).any isIllegal = false :=
    List.any_eq_false.mpr fun c member illegal => absurd (legible c member).2 (by rw [illegal]; decide)
  have solid : frontSpaced name ++ ':' :: backSpaced text ≠ [] :=
    List.append_ne_nil_of_right_ne_nil _ (List.cons_ne_nil _ _)
  exact read?_of_divide plain solid legal divided inhabited fits

end Title

namespace Site

variable {site : Site} {name text : String} {id : Int}

/-- The spelling of a namespace's name in spaces is looked up as the name itself. -/
theorem indexAmong_normalizeSpaces (own : List (String × Int)) (name : String) :
    indexAmong own (Text.normalizeSpaces (Text.fromKey name)) = indexAmong own name := by
  have spaced := Text.normalizeSpaces_fromKey_normalizeSpaces name
  have canonical : Namespace.ofName? (Text.normalizeSpaces (Text.fromKey name)) =
      Namespace.ofName? name := by
    unfold Namespace.ofName?
    rw [spaced]
  have key : namespaceKey (Text.normalizeSpaces (Text.fromKey name)) = namespaceKey name := by
    rw [namespaceKey, spaced, namespaceKey]
  unfold indexAmong
  rw [canonical, key]

/-- No name at all is that of the main namespace. -/
theorem indexAmong_of_blank (own : List (String × Int))
    (blank : Text.spaced (Text.fromKey name).toList = []) :
    indexAmong own name = some Namespace.mainId := by
  have empty : Text.normalizeSpaces (Text.fromKey name) = "" := by
    rw [Text.normalizeSpaces, blank]
  have main : Namespace.ofName? "" = some .main := Namespace.ofName?_canonicalName .main
  rw [← indexAmong_normalizeSpaces, empty, indexAmong_of_ofName? own main]
  rfl

/-- A namespace means the same by itself and in front of a title: whatever name it is found under, that name
with a colon and a text behind it names the title of the namespace with that text. -/
theorem resolveTitle_prefixed (found : site.namespaceIndex name = some id)
    (other : id ≠ Namespace.mainId) (undivided : ':' ∉ name.toList)
    (writable : Title.IsWritable name.toList) (writable' : Title.IsWritable text.toList)
    (inhabited : Text.normalizeSpaces (Text.fromKey text) ≠ "")
    (fits : (Text.normalizeSpaces (Text.fromKey text)).utf8ByteSize ≤ 255) :
    site.resolveTitle (name ++ ":" ++ text) =
      some ⟨id, Text.capitalizeFirst (Text.normalizeSpaces (Text.fromKey text))⟩ := by
  have given : Text.spaced (Text.fromKey name).toList ≠ [] := by
    intro blank
    rw [namespaceIndex, indexAmong_of_blank _ blank, Option.some.injEq] at found
    exact other found.symm
  rw [← Title.byteCount_toList, Text.toList_normalizeSpaces] at fits
  rw [Text.capitalizeFirst, Text.toList_normalizeSpaces, resolveTitle]
  refine Title.read?_prefixed ?_ other given undivided writable writable' ?_ fits
  · rwa [indexAmong_normalizeSpaces]
  · intro empty
    refine inhabited ?_
    rw [Text.normalizeSpaces, empty]

/-- A wiki's own name in another spelling, white space of other kinds about the colon, and a further colon in
the text. -/
theorem resolveTitle_prefixed_handbook :
    let site : Site := { customNamespaces := [⟨"Great_Handbook", 12⟩] }
    let name := "\tGREAT _handboo\u212a"
    let text := "\u3000ßa_: b\u0085"
    site.namespaceIndex name = some 12 ∧ Text.normalizeSpaces (Text.fromKey text) = "ßa : b" ∧
      site.resolveTitle (name ++ ":" ++ text) = some ⟨12, "SSa : b"⟩ := by
  intro site name text
  have found : site.namespaceIndex name = some 12 := by decide +kernel
  have spaced : Text.normalizeSpaces (Text.fromKey text) = "ßa : b" := by decide +kernel
  have fits : (Text.normalizeSpaces (Text.fromKey text)).utf8ByteSize ≤ 255 := by
    rw [spaced]
    decide
  have capital : Text.capitalizeFirst "ßa : b" = "SSa : b" := by decide +kernel
  have title := resolveTitle_prefixed found (by decide) (by decide) (by decide) (by decide)
    (by rw [spaced]; decide) fits
  rw [spaced, capital] at title
  exact ⟨found, spaced, title⟩

end Site

end WikiQuery
