import WikiQuery.Proofs.Numeral
import WikiQuery.Text.Entity
import WikiQuery.Text.Split

/-!
The grammar of character references, and what becomes of a text in which they are replaced. A name or
a number between an ampersand and a semicolon is a reference. A text is read once from the left: where
a reference begins its character takes its place, and all else is kept.

Numbers are read as integers are, so one with a plus sign in front is taken for a reference, too. The
main statement says what is replaced, and that the plus sign is the only departure from the grammar.
-/

set_option autoImplicit false

namespace WikiQuery.Text

open Number (IsNumeral unsigned? unsigned?_eq_some_iff not_mem_of_isNumeral)

variable {name cs behind rest out : List Char} {c d : Char} {n : Nat}

/-- The names that stand for a character. -/
def namedCharacters : List (String × Char) :=
  [("amp", '&'), ("lt", '<'), ("gt", '>'), ("quot", '"'), ("apos", '\''), ("nbsp", '\u00a0')]

/-- The number of a character in decimal digits or, behind an `x` of either case, in hexadecimal ones,
with a sign in front of the digits. -/
inductive Numbered (sign : List Char) : List Char → Char → Prop
  | decimal {digits : List Char} {c : Char} (numeral : IsNumeral 10 digits c.toNat) :
      Numbered sign ('#' :: (sign ++ digits)) c
  | hexadecimal {mark : Char} {digits : List Char} {c : Char} (marked : mark = 'x' ∨ mark = 'X')
      (numeral : IsNumeral 16 digits c.toNat) : Numbered sign ('#' :: mark :: (sign ++ digits)) c

/-- What stands between the ampersand and the semicolon of a reference to a character. -/
def Refers (name : List Char) (c : Char) : Prop :=
  (String.ofList name, c) ∈ namedCharacters ∨ Numbered [] name c

/-- What is taken for a reference: any reference, and a number with a plus sign. -/
def Reads (name : List Char) (c : Char) : Prop :=
  Refers name c ∨ Numbered ['+'] name c

/-- A name as it stands in a reference. -/
def reference (name : List Char) : List Char :=
  '&' :: (name ++ [';'])

/-- What becomes of a text that is read once from the left: a reference is replaced by its character,
which is not read again, and a character that begins no reference is kept. -/
inductive Replaces (refers : List Char → Char → Prop) : List Char → List Char → Prop
  | nil : Replaces refers [] []
  | replace {name rest out : List Char} {c : Char} (here : refers name c)
      (later : Replaces refers rest out) : Replaces refers (reference name ++ rest) (c :: out)
  | keep {c : Char} {rest out : List Char}
      (plain : ∀ name d, refers name d → ¬reference name <+: c :: rest)
      (later : Replaces refers rest out) : Replaces refers (c :: rest) (c :: out)

theorem reference_append (name rest : List Char) :
    reference name ++ rest = '&' :: (name ++ ';' :: rest) := by
  simp [reference]

/-- A number stands for the character that it is the number of. -/
theorem charOfCode?_eq_some_iff : charOfCode? n = some c ↔ n = c.toNat := by
  unfold charOfCode?
  constructor
  · intro h
    obtain ⟨valid, made⟩ := Option.ite_none_right_eq_some.mp h
    rw [← Option.some.inj made, Char.ofNat, dif_pos valid]
    rfl
  · rintro rfl
    have valid : c.toNat.isValidChar := c.valid
    rw [if_pos valid, Char.ofNat_toNat]

private theorem bind_unsigned?_eq_some_iff {base : Nat} (small : base ≤ 16) :
    (unsigned? base cs).bind charOfCode? = some c ↔
      ∃ sign digits, (sign = [] ∨ sign = ['+']) ∧ IsNumeral base digits c.toNat ∧
        cs = sign ++ digits := by
  simp only [Option.bind_eq_some_iff, charOfCode?_eq_some_iff, exists_eq_right,
    unsigned?_eq_some_iff small]

theorem reads_of_numbered {sign : List Char} (either : sign = [] ∨ sign = ['+'])
    (numbered : Numbered sign name c) : Reads name c := by
  rcases either with rfl | rfl
  · exact .inl (.inr numbered)
  · exact .inr numbered

/-- A decimal number does not hold the mark of a hexadecimal one. -/
private theorem mark_not_mem {sign digits : List Char} {mark : Char}
    (either : sign = [] ∨ sign = ['+']) (numeral : IsNumeral 10 digits n)
    (marked : mark = 'x' ∨ mark = 'X') : mark ∉ sign ++ digits := by
  have other : Number.digitValue? 10 mark = none := by
    rcases marked with rfl | rfl <;> decide
  have undigit := not_mem_of_isNumeral (by omega) numeral other
  rcases either with rfl | rfl <;> rcases marked with rfl | rfl <;> simpa using undigit

private theorem referenced?_decimal (small : 'x' ∉ cs) (large : 'X' ∉ cs) :
    referenced? ('#' :: cs) = (unsigned? 10 cs).bind charOfCode? := by
  cases cs with
  | nil => rfl
  | cons d cs =>
    have ne : d ≠ 'x' := by
      rintro rfl
      exact small List.mem_cons_self
    have ne' : d ≠ 'X' := by
      rintro rfl
      exact large List.mem_cons_self
    simp [referenced?, ne, ne']

private theorem referenced?_of_numbered {sign : List Char} (either : sign = [] ∨ sign = ['+'])
    (numbered : Numbered sign name c) : referenced? name = some c := by
  cases numbered with
  | @decimal digits _ numeral =>
    rw [referenced?_decimal (mark_not_mem either numeral (.inl rfl))
      (mark_not_mem either numeral (.inr rfl))]
    exact (bind_unsigned?_eq_some_iff (by omega)).mpr ⟨sign, digits, either, numeral, rfl⟩
  | @hexadecimal _ digits _ marked numeral =>
    rcases marked with rfl | rfl <;>
      exact (bind_unsigned?_eq_some_iff (by omega)).mpr ⟨sign, digits, either, numeral, rfl⟩

private theorem namedCharacters_read :
    ∀ entry ∈ namedCharacters, referenced? entry.1.toList = some entry.2 ∧
      '&' ∉ entry.1.toList ∧ ';' ∉ entry.1.toList := by
  decide

private theorem reads_of_referenced? (h : referenced? name = some c) : Reads name c := by
  unfold referenced? at h
  split at h
  · obtain ⟨sign, digits, either, numeral, rfl⟩ := (bind_unsigned?_eq_some_iff (by omega)).mp h
    exact reads_of_numbered either (.hexadecimal (.inl rfl) numeral)
  · obtain ⟨sign, digits, either, numeral, rfl⟩ := (bind_unsigned?_eq_some_iff (by omega)).mp h
    exact reads_of_numbered either (.hexadecimal (.inr rfl) numeral)
  · obtain ⟨sign, digits, either, numeral, rfl⟩ := (bind_unsigned?_eq_some_iff (by omega)).mp h
    exact reads_of_numbered either (.decimal numeral)
  case h_10 => cases h
  all_goals
    obtain rfl := Option.some.inj h
    exact .inl (.inl (by decide))

theorem referenced?_eq_some_iff : referenced? name = some c ↔ Reads name c := by
  refine ⟨reads_of_referenced?, ?_⟩
  rintro ((named | unsigned) | signed)
  · obtain ⟨read, -⟩ := namedCharacters_read _ named
    rwa [String.toList_ofList] at read
  · exact referenced?_of_numbered (.inl rfl) unsigned
  · exact referenced?_of_numbered (.inr rfl) signed

private theorem Numbered.not_mem {sign : List Char} (numbered : Numbered sign name c)
    (plain : d ∉ '#' :: 'x' :: 'X' :: sign) (other : Number.digitValue? 10 d = none)
    (other' : Number.digitValue? 16 d = none) : d ∉ name := by
  simp only [List.mem_cons, not_or] at plain
  obtain ⟨number, small, large, unsigned⟩ := plain
  cases numbered with
  | decimal numeral =>
    have digits := not_mem_of_isNumeral (by omega) numeral other
    simp [number, unsigned, digits]
  | hexadecimal marked numeral =>
    have digits := not_mem_of_isNumeral (by omega) numeral other'
    rcases marked with rfl | rfl
    · simp [number, small, unsigned, digits]
    · simp [number, large, unsigned, digits]

/-- No name of a reference holds what references begin or end with. -/
theorem Reads.not_mem (reads : Reads name c) : '&' ∉ name ∧ ';' ∉ name := by
  rcases reads with (named | unsigned) | signed
  · obtain ⟨-, plain⟩ := namedCharacters_read _ named
    rwa [String.toList_ofList] at plain
  · exact ⟨unsigned.not_mem (by decide) (by decide) (by decide),
      unsigned.not_mem (by decide) (by decide) (by decide)⟩
  · exact ⟨signed.not_mem (by decide) (by decide) (by decide),
      signed.not_mem (by decide) (by decide) (by decide)⟩

/-- The search for a name ends at the next ampersand. -/
theorem nameBefore?_eq_filter (cs : List Char) :
    nameBefore? cs = (cut? ';' cs).filter fun p => !p.1.contains '&' := by
  induction cs with
  | nil => rfl
  | cons c cs ih =>
    by_cases semicolon : c = ';'
    · rw [nameBefore?, cut?, if_pos semicolon, if_pos semicolon]
      rfl
    · rw [nameBefore?, cut?, if_neg semicolon, if_neg semicolon, ih]
      cases cut? ';' cs with
      | none => simp
      | some p =>
        by_cases ampersand : c = '&'
        · simp [ampersand, Option.filter_some]
        · by_cases held : '&' ∈ p.1 <;> simp [ampersand, Ne.symm ampersand, Option.filter_some, held]

/-- The search might as well go on to the first semicolon, whatever stands before it: what holds an
ampersand is no name. -/
theorem reference?_eq_bind (cs : List Char) :
    reference? cs = (cut? ';' cs).bind fun p => (referenced? p.1).map fun c => (c, p.2) := by
  rw [reference?, nameBefore?_eq_filter]
  cases cut? ';' cs with
  | none => rfl
  | some p =>
    by_cases held : '&' ∈ p.1
    · have unnamed : referenced? p.1 = none := by
        refine Option.eq_none_iff_forall_ne_some.mpr fun c read => ?_
        exact (referenced?_eq_some_iff.mp read).not_mem.1 held
      simp [Option.filter_some, held, unnamed]
    · simp [Option.filter_some, held]

/-- A reference is read where there is a name and a semicolon behind it. -/
theorem reference?_eq_some_iff :
    reference? cs = some (c, behind) ↔ ∃ name, Reads name c ∧ cs = name ++ ';' :: behind := by
  simp only [reference?_eq_bind, Option.bind_eq_some_iff, Option.map_eq_some_iff, Prod.mk.injEq,
    referenced?_eq_some_iff]
  constructor
  · rintro ⟨⟨name, rest⟩, found, d, reads, rfl, rfl⟩
    exact ⟨name, reads, (eq_of_cut?_eq_some found).1⟩
  · rintro ⟨name, reads, rfl⟩
    exact ⟨(name, behind), cut?_append reads.not_mem.2 behind, c, reads, rfl, rfl⟩

theorem reference?_append_name (reads : Reads name c) (rest : List Char) :
    reference? (name ++ ';' :: rest) = some (c, rest) :=
  reference?_eq_some_iff.mpr ⟨name, reads, rfl⟩

@[simp] theorem decoded_nil : decoded [] = [] := by
  rw [decoded]

/-- A reference is replaced by its character. -/
theorem decoded_reference (reads : Reads name c) (rest : List Char) :
    decoded (reference name ++ rest) = c :: decoded rest := by
  have read := reference?_append_name reads rest
  rw [reference_append, decoded, if_pos rfl]
  split
  · rename_i found
    rw [read] at found
    obtain ⟨rfl, rfl⟩ := Prod.mk.inj (Option.some.inj found)
    rfl
  · rename_i missing
    rw [read] at missing
    cases missing

/-- An ampersand that begins no reference is kept. -/
theorem decoded_bare (bare : reference? cs = none) : decoded ('&' :: cs) = '&' :: decoded cs := by
  rw [decoded, if_pos rfl]
  split
  · rename_i found
    rw [bare] at found
    cases found
  · rfl

theorem decoded_cons (other : c ≠ '&') (cs : List Char) : decoded (c :: cs) = c :: decoded cs := by
  rw [decoded, if_neg other]

/-- Text without ampersands is kept. -/
theorem decoded_append (plain : '&' ∉ cs) (rest : List Char) :
    decoded (cs ++ rest) = cs ++ decoded rest := by
  induction cs with
  | nil => rfl
  | cons c cs ih =>
    have other : c ≠ '&' := fun same => plain (same ▸ List.mem_cons_self)
    have later : '&' ∉ cs := fun member => plain (List.mem_cons_of_mem c member)
    rw [List.cons_append, decoded_cons other, ih later, List.cons_append]

/-- A text is empty, or it begins with a reference, or with an ampersand that begins none, or with some
other character. What is behind it is a shorter text. -/
theorem text_induction {motive : List Char → Prop} (nil : motive [])
    (replace : ∀ name c rest, Reads name c → motive rest → motive (reference name ++ rest))
    (bare : ∀ cs, reference? cs = none → motive cs → motive ('&' :: cs))
    (other : ∀ c cs, c ≠ '&' → motive cs → motive (c :: cs)) (cs : List Char) : motive cs := by
  fun_induction decoded cs with
  | case1 => exact nil
  | case2 cs d behind read ih =>
    obtain ⟨name, reads, rfl⟩ := reference?_eq_some_iff.mp read
    rw [← reference_append]
    exact replace name d behind reads ih
  | case3 cs missing ih => exact bare cs missing ih
  | case4 c cs ampersand ih => exact other c cs ampersand ih

theorem reference_prefix_cons_iff :
    reference name <+: c :: cs ↔ c = '&' ∧ ∃ rest, cs = name ++ ';' :: rest := by
  constructor
  · rintro ⟨rest, split⟩
    rw [reference_append] at split
    obtain ⟨rfl, rfl⟩ := List.cons.inj split
    exact ⟨rfl, rest, rfl⟩
  · rintro ⟨rfl, rest, rfl⟩
    exact ⟨rest, reference_append name rest⟩

theorem reference?_eq_none_iff :
    reference? cs = none ↔ ∀ name c, Reads name c → ¬reference name <+: '&' :: cs := by
  simp only [Option.eq_none_iff_forall_ne_some, ne_eq, Prod.forall, reference?_eq_some_iff,
    reference_prefix_cons_iff]
  grind

theorem replaces_decoded (cs : List Char) : Replaces Reads cs (decoded cs) := by
  induction cs using text_induction with
  | nil =>
    rw [decoded_nil]
    exact .nil
  | replace name c rest reads ih =>
    rw [decoded_reference reads]
    exact .replace reads ih
  | bare cs missing ih =>
    rw [decoded_bare missing]
    exact .keep (reference?_eq_none_iff.mp missing) ih
  | other c cs other ih =>
    rw [decoded_cons other]
    exact .keep (fun _ _ _ begins => other (reference_prefix_cons_iff.mp begins).1) ih

theorem eq_decoded_of_replaces (h : Replaces Reads cs out) : out = decoded cs := by
  induction h with
  | nil => exact decoded_nil.symm
  | replace here later ih => rw [decoded_reference here, ih]
  | @keep c rest out plain later ih =>
    by_cases ampersand : c = '&'
    · subst ampersand
      rw [decoded_bare (reference?_eq_none_iff.mpr plain), ih]
    · rw [decoded_cons ampersand, ih]

/-- What holds no ampersand has no part of a reference that begins in it. -/
theorem infix_of_infix_append (plain : '&' ∉ cs) (h : reference name <:+: cs ++ rest) :
    reference name <:+: rest := by
  induction cs with
  | nil => exact h
  | cons c cs ih =>
    have later : '&' ∉ cs := fun member => plain (List.mem_cons_of_mem c member)
    rcases List.infix_cons_iff.mp h with begins | further
    · obtain ⟨rfl, -⟩ := reference_prefix_cons_iff.mp begins
      exact absurd List.mem_cons_self plain
    · exact ih later further

/-- A reference that stands in a text behind a reference is that reference, or it stands behind it. -/
theorem eq_or_infix_of_infix_reference {other : List Char} (plain : '&' ∉ name ∧ ';' ∉ name)
    (plain' : ';' ∉ other) (h : reference other <:+: reference name ++ rest) :
    other = name ∨ reference other <:+: rest := by
  rw [reference_append] at h
  rcases List.infix_cons_iff.mp h with begins | further
  · obtain ⟨-, behind, split⟩ := reference_prefix_cons_iff.mp begins
    have cut := cut?_append plain' behind
    rw [← split, cut?_append plain.2, Option.some.injEq, Prod.mk.injEq] at cut
    exact .inl cut.1.symm
  · have unmarked : '&' ∉ name ++ [';'] := by simp [plain.1]
    have further : reference other <:+: (name ++ [';']) ++ rest := by simpa using further
    exact .inr (infix_of_infix_append unmarked further)

/-- A text without references is kept. -/
theorem Replaces.of_plain {refers : List Char → Char → Prop}
    (plain : ∀ name c, refers name c → ¬reference name <:+: cs) : Replaces refers cs cs := by
  induction cs with
  | nil => exact .nil
  | cons c cs ih =>
    have later : Replaces refers cs cs := ih fun name d here within =>
      plain name d here (List.infix_cons within)
    exact .keep (fun name d here begins => plain name d here begins.isInfix) later

/-- A number with a plus sign is no reference. -/
theorem not_refers_of_signed (signed : Numbered ['+'] name c) : ¬Refers name d := by
  have sign : '+' ∈ name := by
    cases signed <;> simp
  rintro (named | unsigned)
  · have plain : ∀ entry ∈ namedCharacters, '+' ∉ entry.1.toList := by decide
    have plain := plain _ named
    rw [String.toList_ofList] at plain
    exact plain sign
  · exact unsigned.not_mem (by decide) (by decide) (by decide) sign

/-- A character is kept, or a reference that begins there is replaced. -/
theorem decoded_cons_cases (c : Char) (cs : List Char) :
    ((∀ name d, Reads name d → ¬reference name <+: c :: cs) ∧
        decoded (c :: cs) = c :: decoded cs) ∨
      ∃ name d rest, Reads name d ∧ cs = name ++ ';' :: rest ∧
        decoded (c :: cs) = d :: decoded rest := by
  by_cases ampersand : c = '&'
  · subst ampersand
    cases read : reference? cs with
    | none => exact .inl ⟨reference?_eq_none_iff.mp read, decoded_bare read⟩
    | some found =>
      obtain ⟨name, reads, rfl⟩ := reference?_eq_some_iff.mp read
      have replaced := decoded_reference reads found.2
      rw [reference_append] at replaced
      exact .inr ⟨name, found.1, found.2, reads, rfl, replaced⟩
  · refine .inl ⟨fun name d reads begins => ?_, decoded_cons ampersand cs⟩
    exact ampersand (reference_prefix_cons_iff.mp begins).1

theorem length_decoded_lt (reads : Reads name d) (rest : List Char) :
    (decoded rest).length < (decoded (name ++ ';' :: rest)).length := by
  obtain ⟨plain, -⟩ := reads.not_mem
  rw [decoded_append plain, decoded_cons (by decide)]
  simp only [List.length_append, List.length_cons]
  omega

/-- A text in which the references alone are replaced is no shorter than the decoded one. -/
theorem length_decoded_le (h : Replaces Refers cs out) : (decoded cs).length ≤ out.length := by
  induction h with
  | nil => simp
  | replace here later ih =>
    rw [decoded_reference (.inl here)]
    simpa using ih
  | @keep c rest out plain later ih =>
    rcases decoded_cons_cases c rest with ⟨-, kept⟩ | ⟨name, d, behind, reads, rfl, replaced⟩
    · rw [kept]
      simpa using ih
    · have shorter := length_decoded_lt reads behind
      rw [replaced, List.length_cons, List.length_cons]
      omega

/-- Where the references alone are replaced, there is no number with a plus sign. -/
theorem not_signed_of_replaces (h : Replaces Refers cs out) (same : out = decoded cs) :
    ∀ name c, Numbered ['+'] name c → ¬reference name <:+: cs := by
  induction h with
  | nil => simp [reference]
  | @replace name rest out c here later ih =>
    intro other d signed within
    rw [decoded_reference (.inl here)] at same
    have reads : Reads other d := .inr signed
    have here' : Reads name c := .inl here
    rcases eq_or_infix_of_infix_reference here'.not_mem reads.not_mem.2 within with rfl | further
    · exact not_refers_of_signed signed here
    · exact ih (List.cons.inj same).2 other d signed further
  | @keep c rest out plain later ih =>
    intro name d signed within
    rcases decoded_cons_cases c rest with ⟨begins, kept⟩ | ⟨name', d', behind, reads, rfl, replaced⟩
    · rw [kept] at same
      rcases List.infix_cons_iff.mp within with here | further
      · exact begins name d (.inr signed) here
      · exact ih (List.cons.inj same).2 name d signed further
    · -- What was taken for a reference left a text that is too short.
      rw [replaced] at same
      obtain ⟨rfl, rfl⟩ := List.cons.inj same
      have shorter := length_decoded_lt reads behind
      have bound := length_decoded_le later
      omega

theorem replaces_of_not_signed (h : Replaces Reads cs out)
    (unsigned : ∀ name c, Numbered ['+'] name c → ¬reference name <:+: cs) :
    Replaces Refers cs out := by
  induction h with
  | nil => exact .nil
  | @replace name rest out c here later ih =>
    have refers : Refers name c := by
      refine here.resolve_right fun signed => unsigned name c signed ?_
      exact (List.prefix_append (reference name) rest).isInfix
    refine .replace refers (ih fun other d signed within => unsigned other d signed ?_)
    exact within.trans (List.suffix_append (reference name) rest).isInfix
  | @keep c rest out plain later ih =>
    refine .keep (fun name d refers => plain name d (.inl refers)) (ih fun name d signed within => ?_)
    exact unsigned name d signed (List.infix_cons within)

/-- A text is read once from the left, and what is replaced are the references and the numbers with a
plus sign in front. The latter are no references; so the references alone are replaced if and only if no
such number stands in the text. -/
theorem replaces_iff_decoded (cs : List Char) :
    (∀ out, Replaces Reads cs out ↔ out = decoded cs) ∧
    (Replaces Refers cs (decoded cs) ↔
      ∀ name c, Numbered ['+'] name c → ¬reference name <:+: cs) := by
  refine ⟨fun out => ⟨eq_decoded_of_replaces, ?_⟩, fun h => not_signed_of_replaces h rfl, ?_⟩
  · rintro rfl
    exact replaces_decoded cs
  · exact replaces_of_not_signed (replaces_decoded cs)

/-- A plus sign in front of a number makes no difference, though what it stands in is no reference and
should be kept. -/
theorem replaces_plus_sign :
    let text := "&#+65;".toList
    Replaces Refers text text ∧ decoded text = ['A'] ∧ ¬Replaces Refers text (decoded text) := by
  intro text
  have numeral : IsNumeral 10 ['6', '5'] 'A'.toNat :=
    (Number.digits?_eq_some_iff (by omega)).mp (by decide)
  have signed : Numbered ['+'] ['#', '+', '6', '5'] 'A' := .decimal numeral
  have replaced : decoded text = ['A'] := by
    have first := decoded_reference (.inr signed) []
    rwa [decoded_nil, List.append_nil] at first
  refine ⟨Replaces.of_plain fun name c refers within => ?_, replaced, fun kept => ?_⟩
  · have reads : Reads ['#', '+', '6', '5'] 'A' := .inr signed
    have reads' : Reads name c := .inl refers
    have within : reference name <:+: reference ['#', '+', '6', '5'] ++ [] := within
    rcases eq_or_infix_of_infix_reference reads.not_mem reads'.not_mem.2 within with rfl | further
    · exact not_refers_of_signed signed refers
    · simp [reference] at further
  · exact not_signed_of_replaces kept rfl _ 'A' signed (List.infix_refl _)

end WikiQuery.Text
