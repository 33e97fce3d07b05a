import WikiQuery.Proofs.Reference
import WikiQuery.Reading.Category

/-!
Ampersands of two kinds. A text is cut at its bare ampersands, and the others begin references, which
are replaced. The cuts and the replacements are found by searches of their own; they agree on every
ampersand, so a text can be cut first and its pieces decoded, or be decoded as a whole. A text in which
each ampersand is written as a reference is never cut, and stands for itself.
-/

set_option autoImplicit false

namespace WikiQuery.Text

variable {name cs rest before after behind : List Char} {c : Char}

theorem bareAmpersandPieces_ne_nil (cs : List Char) : bareAmpersandPieces cs ≠ [] := by
  cases cs with
  | nil => simp [bareAmpersandPieces]
  | cons c cs =>
    rw [bareAmpersandPieces]
    split
    · simp
    · split <;> simp

theorem bareAmpersandPieces_bare (bare : reference? cs = none) :
    bareAmpersandPieces ('&' :: cs) = [] :: bareAmpersandPieces cs := by
  rw [bareAmpersandPieces, if_pos ⟨rfl, by rw [bare]; rfl⟩]

private theorem bareAmpersandPieces_of_not_bare (kept : ¬(c = '&' ∧ (reference? cs).isNone)) :
    bareAmpersandPieces (c :: cs) = (bareAmpersandPieces cs).modifyHead ([c] ++ ·) := by
  rw [bareAmpersandPieces, if_neg kept]
  cases pieces : bareAmpersandPieces cs with
  | nil => exact absurd pieces (bareAmpersandPieces_ne_nil cs)
  | cons p ps => rfl

theorem bareAmpersandPieces_cons (other : c ≠ '&') (cs : List Char) :
    bareAmpersandPieces (c :: cs) = (bareAmpersandPieces cs).modifyHead ([c] ++ ·) :=
  bareAmpersandPieces_of_not_bare fun bare => other bare.1

theorem bareAmpersandPieces_append (plain : '&' ∉ cs) (rest : List Char) :
    bareAmpersandPieces (cs ++ rest) = (bareAmpersandPieces rest).modifyHead (cs ++ ·) := by
  induction cs with
  | nil => cases pieces : bareAmpersandPieces rest <;> simp [pieces]
  | cons c cs ih =>
    have other : c ≠ '&' := fun same => plain (same ▸ List.mem_cons_self)
    have later : '&' ∉ cs := fun member => plain (List.mem_cons_of_mem c member)
    rw [List.cons_append, bareAmpersandPieces_cons other, ih later, List.modifyHead_modifyHead]
    rfl

/-- A text is not cut at a reference, which becomes a part of the first piece behind it. -/
theorem bareAmpersandPieces_reference (reads : Reads name c) (rest : List Char) :
    bareAmpersandPieces (reference name ++ rest) =
      (bareAmpersandPieces rest).modifyHead (reference name ++ ·) := by
  have read := reference?_append_name reads rest
  rw [reference_append, bareAmpersandPieces_of_not_bare (by simp [read]), List.append_cons,
    bareAmpersandPieces_append (by simp [reads.not_mem.1]), List.modifyHead_modifyHead]
  rfl

/-- A part that is not cut and is decoded on its own, whatever stands behind it. -/
structure Segment (part : List Char) : Prop where
  pieces : ∀ rest, bareAmpersandPieces (part ++ rest) =
    (bareAmpersandPieces rest).modifyHead (part ++ ·)
  decoded : ∀ rest, Text.decoded (part ++ rest) = Text.decoded part ++ Text.decoded rest

theorem Segment.reference (reads : Reads name c) : Segment (reference name) where
  pieces := bareAmpersandPieces_reference reads
  decoded rest := by
    have alone := decoded_reference reads []
    rw [List.append_nil, decoded_nil] at alone
    rw [decoded_reference reads, alone, List.singleton_append]

theorem Segment.single (other : c ≠ '&') : Segment [c] where
  pieces := bareAmpersandPieces_cons other
  decoded rest := by
    rw [List.singleton_append, decoded_cons other, decoded_cons other, decoded_nil,
      List.singleton_append]

/-- A text is made of segments and bare ampersands. -/
theorem segment_induction {motive : List Char → Prop} (nil : motive [])
    (segment : ∀ part rest, Segment part → motive rest → motive (part ++ rest))
    (bare : ∀ cs, reference? cs = none → motive cs → motive ('&' :: cs)) (cs : List Char) :
    motive cs := by
  induction cs using text_induction with
  | nil => exact nil
  | replace name c rest reads ih => exact segment _ rest (.reference reads) ih
  | bare cs missing ih => exact bare cs missing ih
  | other c cs other ih => exact segment [c] cs (.single other) ih

private theorem intercalate_modifyHead (part : List Char) {ps : List (List Char)}
    (inhabited : ps ≠ []) :
    ['&'].intercalate (ps.modifyHead (part ++ ·)) = part ++ ['&'].intercalate ps := by
  obtain ⟨p, ps, rfl⟩ := List.exists_cons_of_ne_nil inhabited
  cases ps with
  | nil => simp
  | cons q qs => simp only [List.modifyHead_cons, List.intercalate_cons_cons, List.append_assoc]

private theorem intercalate_nil_cons {ps : List (List Char)} (inhabited : ps ≠ []) :
    ['&'].intercalate ([] :: ps) = '&' :: ['&'].intercalate ps := by
  cases ps with
  | nil => exact absurd rfl inhabited
  | cons p ps => rw [List.intercalate_cons_cons, List.nil_append, List.singleton_append]

/-- No cut loses anything. -/
theorem intercalate_bareAmpersandPieces (cs : List Char) :
    ['&'].intercalate (bareAmpersandPieces cs) = cs := by
  induction cs using segment_induction with
  | nil => rfl
  | segment part rest whole ih =>
    rw [whole.pieces, intercalate_modifyHead part (bareAmpersandPieces_ne_nil rest), ih]
  | bare cs missing ih =>
    rw [bareAmpersandPieces_bare missing, intercalate_nil_cons (bareAmpersandPieces_ne_nil cs), ih]

theorem Segment.map_decoded {part : List Char} (whole : Segment part) (ps : List (List Char)) :
    (ps.modifyHead (part ++ ·)).map Text.decoded =
      (ps.map Text.decoded).modifyHead (Text.decoded part ++ ·) := by
  cases ps with
  | nil => rfl
  | cons p ps => simp only [List.modifyHead_cons, List.map_cons, whole.decoded]

/-- It makes no difference whether a text is decoded before or after it is cut. -/
theorem decoded_eq_intercalate (cs : List Char) :
    decoded cs = ['&'].intercalate ((bareAmpersandPieces cs).map decoded) := by
  have inhabited : ∀ cs, (bareAmpersandPieces cs).map decoded ≠ [] := by
    simp [bareAmpersandPieces_ne_nil]
  induction cs using segment_induction with
  | nil => simp [bareAmpersandPieces]
  | segment part rest whole ih =>
    rw [whole.decoded, whole.pieces, whole.map_decoded,
      intercalate_modifyHead _ (inhabited rest), ← ih]
  | bare cs missing ih =>
    rw [bareAmpersandPieces_bare missing, List.map_cons, decoded_nil, decoded_bare missing,
      intercalate_nil_cons (inhabited cs), ih]

/-- What holds no ampersand stands before one that comes later. -/
private theorem eq_append_of_plain (plain : '&' ∉ cs) (h : cs ++ rest = before ++ '&' :: after) :
    ∃ middle, before = cs ++ middle ∧ rest = middle ++ '&' :: after := by
  induction cs generalizing before with
  | nil => exact ⟨before, rfl, h⟩
  | cons c cs ih =>
    have later : '&' ∉ cs := fun member => plain (List.mem_cons_of_mem c member)
    cases before with
    | nil =>
      obtain ⟨rfl, -⟩ := List.cons.inj h
      exact absurd List.mem_cons_self plain
    | cons d before =>
      obtain ⟨rfl, shorter⟩ := List.cons.inj h
      obtain ⟨middle, rfl, split⟩ := ih later shorter
      exact ⟨middle, rfl, split⟩

/-- Whether a reference is read is decided before the next ampersand. -/
theorem reference?_append_eq_none (bare : reference? cs = none) (after : List Char) :
    reference? (cs ++ '&' :: after) = none := by
  refine Option.eq_none_iff_forall_ne_some.mpr fun found read => ?_
  obtain ⟨name, reads, split⟩ := reference?_eq_some_iff.mp read
  have plain : '&' ∉ name ++ [';'] := by simp [reads.not_mem.1]
  rw [List.append_cons name] at split
  obtain ⟨middle, rfl, -⟩ := eq_append_of_plain plain split.symm
  rw [← List.append_cons, reference?_append_name reads] at bare
  cases bare

/-- What stands before an ampersand is decoded on its own. -/
theorem decoded_append_ampersand (before after : List Char) :
    decoded (before ++ '&' :: after) = decoded before ++ decoded ('&' :: after) := by
  induction before using segment_induction with
  | nil => rw [decoded_nil, List.nil_append, List.nil_append]
  | segment part rest whole ih =>
    rw [List.append_assoc, whole.decoded, whole.decoded, ih, List.append_assoc]
  | bare cs missing ih =>
    rw [List.cons_append, decoded_bare (reference?_append_eq_none missing after),
      decoded_bare missing, ih, List.cons_append]

private theorem modifyHead_append {f : List Char → List Char} (ps : List (List Char))
    {qs : List (List Char)} (inhabited : qs ≠ []) :
    (qs ++ ps).modifyHead f = qs.modifyHead f ++ ps := by
  cases qs with
  | nil => exact absurd rfl inhabited
  | cons q qs => rfl

/-- At a bare ampersand a text is cut. -/
theorem bareAmpersandPieces_append_bare (bare : reference? after = none) (before : List Char) :
    bareAmpersandPieces (before ++ '&' :: after) =
      bareAmpersandPieces before ++ bareAmpersandPieces after := by
  induction before using segment_induction with
  | nil => exact bareAmpersandPieces_bare bare
  | segment part rest whole ih =>
    rw [List.append_assoc, whole.pieces, whole.pieces, ih,
      modifyHead_append _ (bareAmpersandPieces_ne_nil rest)]
  | bare cs missing ih =>
    rw [List.cons_append, bareAmpersandPieces_bare (reference?_append_eq_none missing after),
      bareAmpersandPieces_bare missing, ih, List.cons_append]

/-- An ampersand that begins a reference makes no piece: the last piece of what stands before it and the
first piece of what stands behind it are parts of one. -/
theorem length_bareAmpersandPieces_reference (reads : Reads name c) (before rest : List Char) :
    (bareAmpersandPieces (before ++ (reference name ++ rest))).length + 1 =
      (bareAmpersandPieces before).length + (bareAmpersandPieces rest).length := by
  induction before using segment_induction with
  | nil =>
    rw [List.nil_append, bareAmpersandPieces_reference reads, List.length_modifyHead, Nat.add_comm]
    rfl
  | segment part behind whole ih =>
    rw [List.append_assoc, whole.pieces, whole.pieces, List.length_modifyHead,
      List.length_modifyHead, ih]
  | bare cs missing ih =>
    have later : reference? (cs ++ (reference name ++ rest)) = none := by
      rw [reference_append]
      exact reference?_append_eq_none missing _
    rw [List.cons_append, bareAmpersandPieces_bare later, bareAmpersandPieces_bare missing,
      List.length_cons, List.length_cons, ih]
    omega

/-- In a piece each ampersand begins a reference. -/
theorem reads_of_mem_bareAmpersandPieces {piece : List Char}
    (member : piece ∈ bareAmpersandPieces cs) (split : piece = before ++ '&' :: after) :
    ∃ name c behind, Reads name c ∧ after = name ++ ';' :: behind := by
  induction cs using text_induction generalizing piece before with
  | nil => simp_all [bareAmpersandPieces]
  | replace name c rest reads ih =>
    obtain ⟨p, ps, pieces⟩ := List.exists_cons_of_ne_nil (bareAmpersandPieces_ne_nil rest)
    rw [pieces] at ih
    rw [bareAmpersandPieces_reference reads, pieces, List.modifyHead_cons, List.mem_cons] at member
    rcases member with rfl | later
    · rw [reference_append] at split
      cases before with
      | nil => exact ⟨name, c, p, reads, (List.cons.inj split).2.symm⟩
      | cons d before =>
        have plain : '&' ∉ name ++ [';'] := by simp [reads.not_mem.1]
        have shorter := (List.cons.inj split).2
        rw [List.append_cons] at shorter
        obtain ⟨middle, -, here⟩ := eq_append_of_plain plain shorter
        exact ih List.mem_cons_self here
    · exact ih (List.mem_cons_of_mem p later) split
  | bare cs missing ih =>
    rw [bareAmpersandPieces_bare missing, List.mem_cons] at member
    rcases member with rfl | later
    · simp at split
    · exact ih later split
  | other c cs other ih =>
    obtain ⟨p, ps, pieces⟩ := List.exists_cons_of_ne_nil (bareAmpersandPieces_ne_nil cs)
    rw [pieces] at ih
    rw [bareAmpersandPieces_cons other, pieces, List.modifyHead_cons, List.mem_cons] at member
    rcases member with rfl | later
    · obtain ⟨middle, -, here⟩ := eq_append_of_plain (by simpa using Ne.symm other) split
      exact ih List.mem_cons_self here
    · exact ih (List.mem_cons_of_mem p later) split

theorem opensReference_eq_false_iff :
    opensReference ('&' :: cs) = false ↔ reference? cs = none := by
  simp [opensReference]

/-- An ampersand is left alone if and only if it begins no reference. -/
theorem decoded_ampersand_iff :
    decoded ('&' :: cs) = '&' :: decoded cs ↔ opensReference ('&' :: cs) = false := by
  rw [opensReference_eq_false_iff]
  refine ⟨fun same => ?_, decoded_bare⟩
  refine Option.eq_none_iff_forall_ne_some.mpr fun found read => ?_
  obtain ⟨name, reads, rfl⟩ := reference?_eq_some_iff.mp read
  rw [← reference_append, decoded_reference reads] at same
  have shorter := length_decoded_lt reads found.2
  have shortened := congrArg List.length same
  simp only [List.length_cons] at shortened
  omega

/-- The ampersands at which a text is cut are those that are left alone when it is decoded. The pieces
with ampersands between them are the text, the decoded pieces with ampersands between them are the decoded
text, and within a piece each ampersand begins a reference, which is replaced. A text opens with a
reference if and only if its first ampersand is not left alone; and at any place of a text an ampersand
cuts it into what stands before and behind if and only if it is left alone there. -/
theorem bareAmpersandPieces_decoded (cs : List Char) :
    ['&'].intercalate (bareAmpersandPieces cs) = cs ∧
    decoded cs = ['&'].intercalate ((bareAmpersandPieces cs).map decoded) ∧
    (∀ piece ∈ bareAmpersandPieces cs, ∀ before after, piece = before ++ '&' :: after →
      ∃ name c behind, Reads name c ∧ after = name ++ ';' :: behind ∧
        decoded piece = decoded before ++ c :: decoded behind) ∧
    (∀ rest, cs = '&' :: rest →
      (opensReference cs = true ↔ decoded cs ≠ '&' :: decoded rest)) ∧
    ∀ before after, cs = before ++ '&' :: after →
      (bareAmpersandPieces cs = bareAmpersandPieces before ++ bareAmpersandPieces after ↔
        opensReference ('&' :: after) = false) ∧
      (decoded cs = decoded before ++ '&' :: decoded after ↔
        opensReference ('&' :: after) = false) := by
  refine ⟨intercalate_bareAmpersandPieces cs, decoded_eq_intercalate cs, ?_, ?_, ?_⟩
  · rintro piece member before after rfl
    obtain ⟨name, c, behind, reads, rfl⟩ := reads_of_mem_bareAmpersandPieces member rfl
    refine ⟨name, c, behind, reads, rfl, ?_⟩
    rw [decoded_append_ampersand, ← reference_append, decoded_reference reads]
  · rintro rest rfl
    rw [Ne, decoded_ampersand_iff, Bool.not_eq_false]
  · rintro before after rfl
    refine ⟨⟨fun cut => ?_, fun bare => ?_⟩, ?_⟩
    · refine opensReference_eq_false_iff.mpr ?_
      refine Option.eq_none_iff_forall_ne_some.mpr fun found read => ?_
      obtain ⟨name, reads, rfl⟩ := reference?_eq_some_iff.mp read
      have plain : '&' ∉ name ++ [';'] := by simp [reads.not_mem.1]
      have joined := length_bareAmpersandPieces_reference reads before found.2
      rw [reference_append, cut, List.length_append, List.append_cons,
        bareAmpersandPieces_append plain, List.length_modifyHead] at joined
      omega
    · exact bareAmpersandPieces_append_bare (opensReference_eq_false_iff.mp bare) before
    · rw [decoded_append_ampersand, List.append_cancel_left_eq, decoded_ampersand_iff]

theorem bareAmpersandPieces_decoded_adjacent :
    let cs := "a&b&amp;&#38&#x26;;&c".toList
    bareAmpersandPieces cs = ["a", "b&amp;", "#38&#x26;;", "c"].map String.toList ∧
      decoded cs = "a&b&&#38&;&c".toList ∧
      (opensReference "&amp;&#38&#x26;;&c".toList = true ∧
        decoded "&amp;&#38&#x26;;&c".toList ≠ '&' :: decoded "amp;&#38&#x26;;&c".toList) := by
  intro cs
  have pieces : bareAmpersandPieces cs =
      ["a", "b&amp;", "#38&#x26;;", "c"].map String.toList := by decide
  have opens : opensReference "&amp;&#38&#x26;;&c".toList = true := by decide
  obtain ⟨-, whole, -, -, -⟩ := bareAmpersandPieces_decoded cs
  obtain ⟨-, -, -, first, -⟩ := bareAmpersandPieces_decoded "&amp;&#38&#x26;;&c".toList
  refine ⟨pieces, ?_, opens, (first _ rfl).mp opens⟩
  rw [whole, pieces]
  decide +kernel

/-- A text with each ampersand written as a reference. -/
def escaped (cs : List Char) : List Char :=
  cs.flatMap fun c => if c = '&' then "&amp;".toList else [c]

theorem reads_amp : Reads "amp".toList '&' :=
  .inl (.inl (by decide))

theorem escaped_ampersand (cs : List Char) :
    escaped ('&' :: cs) = reference "amp".toList ++ escaped cs :=
  rfl

theorem escaped_cons (other : c ≠ '&') (cs : List Char) :
    escaped (c :: cs) = c :: escaped cs := by
  rw [escaped, List.flatMap_cons, if_neg other]
  rfl

/-- Each reference stands for its ampersand, which is not read again. -/
theorem decoded_escaped (cs : List Char) : decoded (escaped cs) = cs := by
  induction cs with
  | nil => exact decoded_nil
  | cons c cs ih =>
    by_cases ampersand : c = '&'
    · rw [ampersand, escaped_ampersand, decoded_reference reads_amp, ih]
    · rw [escaped_cons ampersand, decoded_cons ampersand, ih]

theorem bareAmpersandPieces_escaped (cs : List Char) :
    bareAmpersandPieces (escaped cs) = [escaped cs] := by
  induction cs with
  | nil => rfl
  | cons c cs ih =>
    by_cases ampersand : c = '&'
    · rw [ampersand, escaped_ampersand, bareAmpersandPieces_reference reads_amp, ih,
        List.modifyHead_cons]
    · rw [escaped_cons ampersand, bareAmpersandPieces_cons ampersand, ih, List.modifyHead_cons]
      rfl

theorem pieces_append_of_not_mem {sep : Char} (plain : sep ∉ cs) (rest : List Char) :
    pieces sep (cs ++ rest) = (pieces sep rest).modifyHead (cs ++ ·) := by
  obtain ⟨p, ps, parts⟩ := List.exists_cons_of_ne_nil (pieces_ne_nil sep rest)
  induction cs with
  | nil => rw [List.nil_append, parts, List.modifyHead_cons, List.nil_append]
  | cons c cs ih =>
    have other : c ≠ sep := fun same => plain (same ▸ List.mem_cons_self)
    have later : sep ∉ cs := fun member => plain (List.mem_cons_of_mem c member)
    rw [List.cons_append, pieces, if_neg other, ih later, parts]
    rfl

/-- Bars stay where they are. -/
theorem pieces_escaped (cs : List Char) :
    pieces '|' (escaped cs) = (pieces '|' cs).map escaped := by
  induction cs with
  | nil => rfl
  | cons c cs ih =>
    obtain ⟨p, ps, parts⟩ := List.exists_cons_of_ne_nil (pieces_ne_nil '|' cs)
    rw [parts] at ih
    by_cases bar : c = '|'
    · rw [bar, escaped_cons (by decide), pieces, if_pos rfl, ih, pieces, if_pos rfl, parts]
      rfl
    · have plain : '|' ∉ escaped [c] := by
        by_cases ampersand : c = '&'
        · rw [ampersand]
          decide
        · rw [escaped_cons ampersand]
          simpa [escaped] using Ne.symm bar
      have front : ∀ rest, escaped (c :: rest) = escaped [c] ++ escaped rest := fun rest => by
        rw [escaped, List.flatMap_cons, escaped, escaped, List.flatMap_singleton]
      rw [front cs, pieces_append_of_not_mem plain, ih, pieces, if_neg bar, parts, List.map_cons,
        List.map_cons, List.modifyHead_cons, ← front p]

/-- Any text can be written as one term: with each ampersand written as a reference it is not cut at
ampersands, and it stands for itself, whatever it looks like. A line that is written so has the terms that
bars make of the text itself. -/
theorem escaped_term (cs : List Char) :
    bareAmpersandPieces (escaped cs) = [escaped cs] ∧ decoded (escaped cs) = cs ∧
      Reading.termsOf (escaped cs) = (false, (pieces '|' cs).map trimmed) := by
  refine ⟨bareAmpersandPieces_escaped cs, decoded_escaped cs, ?_⟩
  simp [Reading.termsOf, bareAmpersandPieces_escaped, pieces_escaped, decoded_escaped]

end WikiQuery.Text
