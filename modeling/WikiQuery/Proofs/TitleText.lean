import Mathlib.Data.List.Infix
import WikiQuery.Proofs.KeyForm

/-!
The texts of titles. A title that was read has a text that would be read as it stands: it is tidy and
begins with a capital, and no sign in it ends it or has no place in titles. So a title can be written
behind the name of its namespace and read again; only the first capital can make it too long for that.
-/

set_option autoImplicit false

namespace WikiQuery

namespace Text

variable {cs ds name : List Char} {s : String}

theorem Neat.joinBlanksFrom_eq (h : Neat cs) {afterBlank : Bool}
    (apart : afterBlank = true → cs.head? ≠ some ' ') : joinBlanksFrom afterBlank cs = cs := by
  induction cs generalizing afterBlank with
  | nil => rfl
  | cons c cs ih =>
    have rest : Neat cs := h.of_infix (List.suffix_cons c cs).isInfix
    by_cases blank : isBlank c = true
    · obtain rfl := h.spaces c List.mem_cons_self blank
      have first : afterBlank = false := Bool.eq_false_iff.mpr fun held => apart held rfl
      have later : cs.head? ≠ some ' ' := by
        intro double
        obtain ⟨ds, rfl⟩ := List.head?_eq_some_iff.mp double
        exact h.single ⟨[], ds, rfl⟩
      rw [joinBlanksFrom, if_pos blank, first, if_neg (by simp), ih rest fun _ => later]
    · rw [joinBlanksFrom, if_neg blank, ih rest (by simp)]

theorem Tidy.spaced_eq (h : Tidy cs) : spaced cs = cs := by
  rw [spaced, h.toNeat.joinBlanksFrom_eq (by simp), h.trim]

theorem toList_fromKey (s : String) :
    (fromKey s).toList = s.toList.map fun c => if c = '_' then ' ' else c :=
  String.toList_ofList

theorem fromKey_append (s t : String) : fromKey (s ++ t) = fromKey s ++ fromKey t := by
  rw [← String.toList_inj, String.toList_append, toList_fromKey, toList_fromKey, toList_fromKey,
    String.toList_append, List.map_append]

theorem fromKey_of_not_mem (plain : '_' ∉ s.toList) : fromKey s = s := by
  rw [← String.toList_inj, toList_fromKey]
  refine (List.map_congr_left fun c member => if_neg ?_).trans (List.map_id _)
  rintro rfl
  exact plain member

/-- A text without underscores comes back from the form in which it is stored. -/
theorem fromKey_toKey (plain : '_' ∉ s.toList) : fromKey (toKey s) = s := by
  rw [← String.toList_inj, toList_fromKey, toList_toKey, List.map_map]
  refine (List.map_congr_left fun c member => ?_).trans (List.map_id _)
  have other : c ≠ '_' := by
    rintro rfl
    exact plain member
  by_cases space : c = ' ' <;> simp [keyChar, space, other]

theorem double_space_of_append_colon (double : [' ', ' '] <:+: name ++ ':' :: cs) :
    [' ', ' '] <:+: name ∨ [' ', ' '] <:+: cs := by
  -- Two spaces begin neither with the colon nor with what stands right in front of it.
  induction name with
  | nil =>
    rcases List.infix_cons_iff.mp double with front | later
    · exact absurd (List.cons_prefix_cons.mp front).1 (by decide)
    · exact .inr later
  | cons c name ih =>
    rcases List.infix_cons_iff.mp double with front | later
    · obtain ⟨first, second⟩ := List.cons_prefix_cons.mp front
      cases name with
      | nil => exact absurd (List.cons_prefix_cons.mp second).1 (by decide)
      | cons d name =>
        obtain rfl := (List.cons_prefix_cons.mp second).1
        exact .inl ⟨[], name, by rw [← first]; rfl⟩
    · exact (ih later).imp (fun inside => List.infix_cons inside) id

/-- Two tidy texts with a colon between them are tidy. -/
theorem Tidy.append_colon (front : Tidy name) (back : Tidy cs) (inhabited : name ≠ [])
    (inhabited' : cs ≠ []) : Tidy (name ++ ':' :: cs) where
  spaces c member blank := by
    rcases List.mem_append.mp member with here | there
    · exact front.spaces c here blank
    · rcases List.mem_cons.mp there with rfl | there
      · exact absurd blank (by decide)
      · exact back.spaces c there blank
  single double := (double_space_of_append_colon double).elim front.single back.single
  plain := by
    rw [List.mem_append, List.mem_cons, not_or, not_or]
    exact ⟨front.plain, by decide, back.plain⟩
  trim := by
    obtain ⟨first, -⟩ := trimmed_eq_self_iff.mp front.trim
    obtain ⟨-, last⟩ := trimmed_eq_self_iff.mp back.trim
    obtain ⟨c, name, rfl⟩ := List.exists_cons_of_ne_nil inhabited
    obtain ⟨d, cs, rfl⟩ := List.exists_cons_of_ne_nil inhabited'
    refine trimmed_eq_self_iff.mpr ⟨fun e start => first e start, fun e finish => last e ?_⟩
    rwa [List.getLast?_append_of_ne_nil _ (by simp), List.getLast?_cons_cons] at finish

end Text

namespace Title

open Text (Tidy)

variable {lookup : String → Option Int} {text : String} {title : Title} {cs name : List Char} {id : Int}

/-- The form of a title's text. -/
structure IsText (cs : List Char) : Prop extends Tidy cs where
  inhabited : cs ≠ []
  legal : cs.any isIllegal = false
  unmarked : '#' ∉ cs
  capital : Text.capitalized cs = cs

/-- The number of bytes that a text takes. -/
theorem byteCount_toList (s : String) : byteCount s.toList = s.utf8ByteSize := by
  have counted : ∀ cs, byteCount cs = (String.ofList cs).utf8ByteSize := by
    intro cs
    induction cs with
    | nil => rfl
    | cons c cs ih =>
      rw [String.ofList_cons, String.utf8ByteSize_append, String.utf8ByteSize_singleton, ← ih]
      rfl
  rw [counted, String.ofList_toList]

theorem hash_not_mem_plainText (text : String) : '#' ∉ plainText text := by
  rw [plainText_eq, withoutFragment]
  cases cut : Text.cut? '#' (withoutColon (Text.spaced (Text.fromKey text).toList)) with
  | none => exact Text.cut?_eq_none_iff.mp cut
  | some parts =>
    obtain ⟨before, behind⟩ := parts
    exact fun member => (Text.eq_of_cut?_eq_some cut).2 ((Text.trimEnd_sublist before).subset member)

theorem mem_of_mem_divide {c : Char} (member : c ∈ (divide lookup cs).2) : c ∈ cs := by
  unfold divide at member
  split at member
  · exact member
  · rename_i before behind cut
    obtain ⟨rfl, -⟩ := Text.eq_of_cut?_eq_some cut
    split at member
    · exact member
    · split at member
      · exact member
      · have inside := (Text.trimmed_sublist behind).subset member
        exact List.mem_append_right _ (List.mem_cons_of_mem _ inside)

theorem cannotBeCapital_of_isIllegal {c : Char} (illegal : isIllegal c = true) :
    Text.cannotBeCapital c.toNat = true := by
  simp only [isIllegal, Bool.or_eq_true, beq_iff_eq, decide_eq_true_eq] at illegal
  rcases illegal with ((((((rfl | rfl) | rfl) | rfl) | rfl) | rfl) | rfl) | control
  case inr =>
    simp only [Text.cannotBeCapital, Bool.and_eq_true, Bool.or_eq_true, Nat.blt_eq]
    omega
  all_goals decide

/-- The first capital brings no sign that was not there. -/
theorem mem_of_mem_capitalized {c : Char} (sign : Text.cannotBeCapital c.toNat = true)
    (member : c ∈ Text.capitalized cs) : c ∈ cs := by
  cases cs with
  | nil => exact member
  | cons d cs =>
    rcases List.mem_append.mp member with first | later
    · rw [Text.eq_of_mem_upperChar first (.inl sign)]
      exact List.mem_cons_self
    · exact List.mem_cons_of_mem d later

theorem isText_of_read? (read : read? lookup text = some title) : IsText title.text.toList := by
  obtain ⟨⟨-, legal⟩, ⟨inhabited, -⟩, rfl⟩ := read?_eq_some_iff.mp read
  rw [String.toList_ofList]
  refine ⟨(tidy_divide (tidy_plainText text)).capitalized, Text.capitalized_ne_nil inhabited, ?_, ?_,
    Text.capitalized_capitalized _⟩
  · refine List.any_eq_false.mpr fun c member illegal => ?_
    have there := mem_of_mem_capitalized (cannotBeCapital_of_isIllegal illegal) member
    exact List.any_eq_false.mp legal c (mem_of_mem_divide there) illegal
  · intro member
    have there := mem_of_mem_capitalized (by decide) member
    exact hash_not_mem_plainText text (mem_of_mem_divide there)

/-- A tidy text is read as it stands, if it neither begins with a colon nor holds the mark of a
fragment. -/
theorem plainText_of_tidy (spelled : (Text.fromKey text).toList = cs) (tidy : Tidy cs)
    (unmarked : '#' ∉ cs) (first : cs.head? ≠ some ':') : plainText text = cs := by
  have colonless : withoutColon cs = cs := by
    unfold withoutColon
    split
    · exact absurd rfl first
    · rfl
  rw [plainText_eq, spelled, tidy.spaced_eq, colonless, withoutFragment,
    Text.cut?_eq_none_iff.mpr unmarked]

theorem read?_of_divide {body : List Char} (plain : plainText text = cs) (inhabited : cs ≠ [])
    (legal : cs.any isIllegal = false) (divided : divide lookup cs = (id, body)) (given : body ≠ [])
    (fits : byteCount body ≤ maxBytes) :
    read? lookup text = some ⟨id, String.ofList (Text.capitalized body)⟩ := by
  rw [read?_eq_some_iff, plain, divided]
  exact ⟨⟨inhabited, legal⟩, ⟨given, fits⟩, rfl⟩

end Title

namespace Namespace

/-- The form of a name that can stand in front of a title. -/
structure IsSpelling (name : List Char) : Prop extends Text.Tidy name where
  inhabited : name ≠ []
  legal : name.any Title.isIllegal = false
  unmarked : '#' ∉ name
  undivided : ':' ∉ name

theorem mem_all (ns : Namespace) : ns ∈ all := by
  cases ns <;> decide

/-- What the table of canonical names says, all at once: each name is that of its namespace, and all but that
of the main namespace can stand in front of a title. -/
private theorem canonicalNames :
    ∀ ns ∈ all, ofName? ns.canonicalName = some ns ∧ (ns ≠ main →
      (ns.canonicalName.toList.all fun c => !Text.isBlank c || c == ' ') = true ∧
      ¬[' ', ' '] <:+: ns.canonicalName.toList ∧ '_' ∉ ns.canonicalName.toList ∧
      Text.trimmed ns.canonicalName.toList = ns.canonicalName.toList ∧
      ns.canonicalName.toList ≠ [] ∧
      ns.canonicalName.toList.any Title.isIllegal = false ∧
      '#' ∉ ns.canonicalName.toList ∧ ':' ∉ ns.canonicalName.toList) := by
  decide +kernel

theorem ofName?_canonicalName (ns : Namespace) : ofName? ns.canonicalName = some ns :=
  (canonicalNames ns ns.mem_all).1

theorem isSpelling_canonicalName {ns : Namespace} (other : ns ≠ main) :
    IsSpelling ns.canonicalName.toList := by
  obtain ⟨-, spelling⟩ := canonicalNames ns ns.mem_all
  obtain ⟨blanks, single, plain, trim, inhabited, legal, unmarked, undivided⟩ := spelling other
  have spaces : ∀ c ∈ ns.canonicalName.toList, Text.isBlank c = true → c = ' ' := by
    simpa [Bool.or_eq_true, imp_iff_not_or] using blanks
  exact ⟨⟨⟨spaces, single, plain⟩, trim⟩, inhabited, legal, unmarked, undivided⟩

end Namespace

namespace Title

variable {lookup : String → Option Int} {text : String} {cs name : List Char} {id : Int}

/-- A text in the form of titles, behind the name of a namespace and a colon, names the title of that
namespace with that text. -/
theorem read?_named (spelled : (Text.fromKey text).toList = name ++ ':' :: cs)
    (spelling : Namespace.IsSpelling name) (known : lookup (String.ofList name) = some id)
    (other : id ≠ Namespace.mainId) (form : IsText cs) :
    read? lookup text =
      if byteCount cs ≤ maxBytes then some ⟨id, String.ofList cs⟩ else none := by
  have plain : plainText text = name ++ ':' :: cs := by
    refine plainText_of_tidy spelled
      (spelling.toTidy.append_colon form.toTidy spelling.inhabited form.inhabited) ?_ ?_
    · simp [spelling.unmarked, form.unmarked]
    · obtain ⟨c, name, rfl⟩ := List.exists_cons_of_ne_nil spelling.inhabited
      rintro first
      exact spelling.undivided (by simp_all)
  -- The first colon is the one behind the name.
  have divided : divide lookup (name ++ ':' :: cs) = (id, cs) := by
    rw [divide, Text.cut?_append spelling.undivided]
    simp only [spelling.trim, known, if_neg other, form.trim]
  have legal : (name ++ ':' :: cs).any isIllegal = false := by
    have apart : isIllegal ':' = false := by decide
    simp only [List.any_append, List.any_cons, Bool.or_eq_false_iff]
    exact ⟨spelling.legal, apart, form.legal⟩
  by_cases fits : byteCount cs ≤ maxBytes
  · rw [if_pos fits, read?_eq_some_iff, plain, divided, form.capital]
    exact ⟨⟨by simp, legal⟩, ⟨form.inhabited, fits⟩, rfl⟩
  · rw [if_neg fits]
    refine Option.eq_none_iff_forall_ne_some.mpr fun found read => fits ?_
    obtain ⟨-, ⟨-, short⟩, -⟩ := read?_eq_some_iff.mp read
    rwa [plain, divided] at short

end Title

namespace Site

variable {site : Site} {text name : String} {title : Title} {ns : Namespace}

theorem indexAmong_of_ofName? (own : List (String × Int)) (named : Namespace.ofName? name = some ns) :
    indexAmong own name = some ns.id := by
  unfold indexAmong
  rw [named]

/-- A title in a namespace that every wiki has is named again by the canonical name of the namespace and the
key of the title, unless its text has grown too long for a title when it got its capital; in no case is
another title named. -/
theorem resolveTitle_canonicalName (resolved : site.resolveTitle text = some title)
    (inside : title.namespaceId = ns.id) (other : ns ≠ .main) :
    site.resolveTitle (ns.canonicalName ++ ":" ++ title.key) =
      if title.text.utf8ByteSize ≤ 255 then some title else none := by
  have form := Title.isText_of_read? resolved
  have spelling := Namespace.isSpelling_canonicalName other
  have spelled : (Text.fromKey (ns.canonicalName ++ ":" ++ title.key)).toList =
      ns.canonicalName.toList ++ ':' :: title.text.toList := by
    rw [Text.fromKey_append, Text.fromKey_append, Text.fromKey_of_not_mem spelling.plain, Title.key,
      Text.fromKey_toKey form.plain, String.toList_append, String.toList_append, List.append_assoc]
    rfl
  have known : indexAmong site.ownNamespaces (String.ofList ns.canonicalName.toList) = some ns.id := by
    rw [String.ofList_toList]
    exact indexAmong_of_ofName? _ ns.ofName?_canonicalName
  have apart : ns.id ≠ Namespace.mainId := by
    cases ns <;> first | decide | exact absurd rfl other
  rw [resolveTitle, Title.read?_named spelled spelling known apart form, Title.byteCount_toList,
    String.ofList_toList, ← inside]
  rfl

/-- A wiki's own namespace may have the number of one that every wiki has, and a capital may take more bytes
than the small letter. -/
theorem resolveTitle_canonicalName_handbook :
    let site : Site := { customNamespaces := [⟨"Handbook", 12⟩] }
    let given : Title := ⟨12, "SSa b:c"⟩
    let faces := List.replicate 63 '😀'
    let grown : Title := ⟨3, String.ofList ("Ɐa".toList ++ faces)⟩
    site.resolveTitle "handBook: ßa__b:c #d" = some given ∧
      site.resolveTitle ("Help" ++ ":" ++ given.key) = some given ∧
      site.resolveTitle (String.ofList ("user_talk:ɐa".toList ++ faces)) = some grown ∧
      site.resolveTitle ("User talk" ++ ":" ++ grown.key) = none := by
  intro site given faces grown
  have short : site.resolveTitle "handBook: ßa__b:c #d" = some given := by decide +kernel
  have long : site.resolveTitle (String.ofList ("user_talk:ɐa".toList ++ faces)) = some grown := by
    rw [resolveTitle, Title.read?_eq_some_iff, Title.plainText_eq, Text.toList_fromKey,
      String.toList_ofList]
    exact ⟨by decide +kernel, by decide +kernel,
      congrArg (Title.mk 3 ∘ String.ofList) (by decide +kernel)⟩
  have fits : given.text.utf8ByteSize ≤ 255 := by
    rw [← Title.byteCount_toList]
    decide +kernel
  have exceeds : ¬grown.text.utf8ByteSize ≤ 255 := by
    rw [← Title.byteCount_toList, String.toList_ofList]
    decide +kernel
  have again := @resolveTitle_canonicalName site _ given .help short rfl (by decide)
  have never := @resolveTitle_canonicalName site _ grown .userTalk long rfl (by decide)
  rw [if_pos fits] at again
  rw [if_neg exceeds] at never
  exact ⟨short, again, long, never⟩

end Site

end WikiQuery
