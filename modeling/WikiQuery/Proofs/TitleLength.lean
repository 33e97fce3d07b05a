import WikiQuery.Proofs.TitleText

/-!
The form and the length of titles. A name is measured before its first letter is made a capital, so a
title has the form of titles in every respect but its length: it is as long as a title may be, and up to
four bytes longer if the capital takes more bytes than the letter.
-/

set_option autoImplicit false

namespace WikiQuery.Title

variable {lookup : String → Option Int} {text : String} {title : Title} {c : Char} {cs ds : List Char}

@[simp] theorem byteCount_nil : byteCount [] = 0 := rfl

@[simp] theorem byteCount_cons (c : Char) (cs : List Char) :
    byteCount (c :: cs) = c.utf8Size + byteCount cs := rfl

@[simp] theorem byteCount_append (cs ds : List Char) :
    byteCount (cs ++ ds) = byteCount cs + byteCount ds := by
  induction cs with
  | nil => simp
  | cons c cs ih => rw [List.cons_append, byteCount_cons, byteCount_cons, ih, Nat.add_assoc]

/-- What the table of longer capitals says about their lengths. -/
private theorem upperExpansions_lengths :
    ∀ entry ∈ Text.upperExpansions,
      byteCount (entry.2.map Char.ofNat) ≤ (Char.ofNat entry.1).utf8Size + 4 := by
  decide +kernel

/-- A capital takes at most four bytes more than the letter. -/
theorem byteCount_upperChar_le (c : Char) : byteCount (Text.upperChar c) ≤ c.utf8Size + 4 := by
  rcases Text.upperChar_cases c with ⟨entry, member, named, upper⟩ | ⟨-, upper⟩
  · have longer := upperExpansions_lengths entry member
    rwa [named, Char.ofNat_toNat, ← upper] at longer
  · rw [upper, byteCount_cons, byteCount_nil]
    have := (Char.ofNat (Text.CaseRun.map Text.upperRuns c.toNat)).utf8Size_le_four
    omega

/-- A title is the capital of a name of at most 255 bytes. -/
theorem exists_name_of_read? (read : read? lookup text = some title) :
    ∃ c cs, (divide lookup (plainText text)).2 = c :: cs ∧
      title.text.toList = Text.upperChar c ++ cs ∧ byteCount (c :: cs) ≤ maxBytes := by
  obtain ⟨-, ⟨inhabited, fits⟩, rfl⟩ := read?_eq_some_iff.mp read
  obtain ⟨c, cs, name⟩ := List.exists_cons_of_ne_nil inhabited
  rw [name] at fits ⊢
  exact ⟨c, cs, rfl, String.toList_ofList, fits⟩

private theorem signs_cases : ∀ c ∈ ['<', '>', '[', ']', '\x7b', '\x7d', '|', '#', '_'],
    isIllegal c = true ∨ c = '#' ∨ c = '_' := by
  simp only [List.forall_mem_cons, List.not_mem_nil, false_implies, implies_true]
  decide

/-- Every title that is read has the form of titles, however namespaces are looked up: it is not empty, has no
sign that no title holds and no white space but single spaces within, and begins with a capital. It takes
at most 255 bytes unless the capital takes more bytes than the letter that was written, and never more
than 259. -/
theorem wellFormed_of_read? (read : read? lookup text = some title) :
    title.text ≠ "" ∧
    (∀ c ∈ title.text.toList, c ∉ ['<', '>', '[', ']', '\x7b', '\x7d', '|', '#', '_'] ∧
      ¬(c.toNat < 0x20 ∨ 0x7F ≤ c.toNat ∧ c.toNat ≤ 0x9F) ∧ (Text.isBlank c = true → c = ' ')) ∧
    ¬[' ', ' '] <:+: title.text.toList ∧ Text.trim title.text = title.text ∧
    Text.capitalizeFirst title.text = title.text ∧
    ∃ c cs, (divide lookup (plainText text)).2 = c :: cs ∧
      title.text.toList = Text.upperChar c ++ cs ∧
      (byteCount (Text.upperChar c) ≤ c.utf8Size → title.text.utf8ByteSize ≤ 255) ∧
      title.text.utf8ByteSize ≤ 259 := by
  have form := isText_of_read? read
  refine ⟨?_, fun c member => ⟨?_, ?_, form.spaces c member⟩, form.single, ?_, ?_, ?_⟩
  · intro empty
    exact form.inhabited (by rw [empty]; rfl)
  · intro sign
    rcases signs_cases c sign with illegal | rfl | rfl
    · exact List.any_eq_false.mp form.legal c member illegal
    · exact form.unmarked member
    · exact form.plain member
  · intro control
    exact List.any_eq_false.mp form.legal c member (by simp [isIllegal, control])
  · rw [Text.trim, form.trim, String.ofList_toList]
  · rw [Text.capitalizeFirst, form.capital, String.ofList_toList]
  · obtain ⟨c, cs, name, letters, fits⟩ := exists_name_of_read? read
    have growth := byteCount_upperChar_le c
    refine ⟨c, cs, name, letters, ?_⟩
    rw [← byteCount_toList, letters, byteCount_append]
    rw [byteCount_cons, maxBytes] at fits
    omega

/-- The upper case of ß takes no more bytes than ß itself. -/
theorem wellFormed_of_read?_sharp :
    let lookup := fun _ : String => (none : Option Int)
    read? lookup "_ß__b: c #d" = some ⟨0, "SS b: c"⟩ ∧
      (divide lookup (plainText "_ß__b: c #d")).2 = "ß b: c".toList ∧
      byteCount (Text.upperChar 'ß') ≤ 'ß'.utf8Size ∧ Text.capitalizeFirst "SS b: c" = "SS b: c" ∧
      "SS b: c".utf8ByteSize ≤ 255 := by
  intro lookup
  have read : read? lookup "_ß__b: c #d" = some ⟨0, "SS b: c"⟩ := by decide +kernel
  have written : (divide lookup (plainText "_ß__b: c #d")).2 = "ß b: c".toList := by decide +kernel
  have short : byteCount (Text.upperChar 'ß') ≤ 'ß'.utf8Size := by decide +kernel
  obtain ⟨-, -, -, -, capital, c, cs, name, -, fits, -⟩ := wellFormed_of_read? read
  obtain ⟨rfl, -⟩ := List.cons.inj (name.symm.trans written)
  exact ⟨read, written, short, capital, fits short⟩

/-- An iota with two marks takes two bytes, and its upper case takes six: a name of 255 bytes becomes a title
of 259. -/
theorem read?_too_long :
    let name := 'ΐ' :: List.replicate 253 'a'
    ∃ title, read? (fun _ => none) (String.ofList name) = some title ∧ byteCount name = 255 ∧
      title.text.utf8ByteSize = 259 := by
  intro name
  have plain : plainText (String.ofList name) = name := by
    rw [plainText_eq, Text.toList_fromKey, String.toList_ofList]
    decide +kernel
  have undivided : divide (fun _ => none) name = (Namespace.mainId, name) := by decide +kernel
  have length : byteCount name = 255 := by decide +kernel
  refine ⟨_, read?_of_divide plain (by decide) (by decide +kernel) undivided (by decide) length.le,
    length, ?_⟩
  rw [← byteCount_toList, String.toList_ofList]
  decide +kernel

end WikiQuery.Title
