import WikiQuery.Proofs.Lowering
import WikiQuery.Proofs.Run
import WikiQuery.Report

/-!
Pairs written as lines. A pair that was read from a line is read again from the line that is written
for it, so the text of a directive's pairs in order, which is what its key is made of, is a directive
that comes to the same.
-/

set_option autoImplicit false

namespace WikiQuery

open Text (lowered trimmed)

namespace Pair

variable {p : Pair} {pairs : List Pair}

/-- A pair as a line of a directive holds it. -/
structure Clean (p : Pair) : Prop where
  named : p.1 ≠ ""
  trimmedName : trimmed p.1.toList = p.1.toList
  loweredName : lowered p.1.toList = p.1.toList
  unequalName : '=' ∉ p.1.toList
  singleName : '\n' ∉ p.1.toList
  trimmedValue : trimmed p.2.toList = p.2.toList
  singleValue : '\n' ∉ p.2.toList

/-- The signs by which a directive is divided are no letters. -/
private theorem sign_not_mem_lowered {sign : Char} {cs : List Char} (known : sign = '=' ∨ sign = '\n')
    (absent : sign ∉ cs) : sign ∉ lowered (trimmed cs) := by
  intro member
  have out : ∀ run ∈ Text.lowerRuns, run.reaches sign.toNat = false := by
    rcases known with rfl | rfl
    · decide +kernel
    · decide +kernel
  have other : sign ∉ ['i', '\u0307', Text.finalSigma, Text.smallSigma] := by
    rcases known with rfl | rfl
    · decide
    · decide
  have before := Text.mem_of_mem_lowered member out other
  exact absent ((Text.trimmed_sublist cs).subset before)

theorem clean_of_ofLine? {line : List Char} (single : '\n' ∉ line) (h : ofLine? line = some p) :
    p.Clean := by
  unfold ofLine? at h
  cases parts : Text.cut? '=' line with
  | none => simp [parts] at h
  | some cut =>
    obtain ⟨name, value⟩ := cut
    obtain ⟨rfl, unequal⟩ := Text.eq_of_cut?_eq_some parts
    simp only [parts, List.isEmpty_iff] at h
    split at h
    · cases h
    · rename_i named
      obtain rfl := Option.some.inj h
      have single' : '\n' ∉ name := fun member => single (List.mem_append_left _ member)
      have singleValue : '\n' ∉ value := fun member =>
        single (List.mem_append_right _ (List.mem_cons_of_mem _ member))
      refine ⟨?_, ?_, ?_, ?_, ?_, ?_, ?_⟩
      · intro nameless
        exact named (String.ofList_eq_empty_iff.mp nameless)
      all_goals simp only [String.toList_ofList]
      · exact Text.trimmed_lowered (Text.trimmed_trimmed name)
      · exact Text.lowered_lowered _
      · exact sign_not_mem_lowered (by simp) unequal
      · exact sign_not_mem_lowered (by simp) single'
      · exact Text.trimmed_trimmed value
      · exact fun member => singleValue ((Text.trimmed_sublist value).subset member)

/-- Every pair of a directive is clean. -/
theorem clean_of_mem_ofText {source : String} (h : p ∈ ofText source) : p.Clean := by
  obtain ⟨line, member, read⟩ := List.mem_filterMap.mp h
  exact clean_of_ofLine? (Text.not_mem_of_mem_pieces member) read

theorem toList_line (p : Pair) : p.line.toList = p.1.toList ++ '=' :: p.2.toList := by
  simp [line]

theorem Clean.line_not_mem (clean : p.Clean) : '\n' ∉ p.line.toList := by
  rw [toList_line, List.mem_append, List.mem_cons]
  rintro (name | sign | value)
  · exact clean.singleName name
  · exact absurd sign (by decide)
  · exact clean.singleValue value

/-- A clean pair is read from its own line. -/
theorem Clean.ofLine?_line (clean : p.Clean) : ofLine? p.line.toList = some p := by
  have inhabited : p.1.toList ≠ [] := by
    intro nil
    exact clean.named (String.toList_eq_nil_iff.mp nil)
  simp only [ofLine?, toList_line, Text.cut?_append clean.unequalName, clean.trimmedName,
    clean.loweredName, clean.trimmedValue, List.isEmpty_iff, if_neg inhabited, String.ofList_toList]

/-- Clean pairs are read from the text of their lines. -/
theorem ofText_text (clean : ∀ p ∈ pairs, p.Clean) : ofText (text pairs) = pairs := by
  by_cases none : pairs = []
  · subst none
    decide
  · have lines : (text pairs).toList = ['\n'].intercalate (pairs.map fun p => p.line.toList) := by
      simp [text, Function.comp_def]
    have single : ∀ line ∈ pairs.map fun p => p.line.toList, '\n' ∉ line := by
      intro line member
      obtain ⟨p, known, rfl⟩ := List.mem_map.mp member
      exact (clean p known).line_not_mem
    rw [ofText, lines, Text.pieces_intercalate single (by simpa using none), List.filterMap_map]
    calc pairs.filterMap (ofLine? ∘ fun p => p.line.toList)
        = pairs.filterMap some := List.filterMap_congr fun p member => (clean p member).ofLine?_line
      _ = pairs := List.filterMap_some

/-- They are read from the printed lines as well, where a line break ends each line. -/
theorem ofText_unlines (clean : ∀ p ∈ pairs, p.Clean) : ofText (unlines (pairs.map line)) = pairs := by
  induction pairs with
  | nil => decide
  | cons p pairs ih =>
    obtain ⟨first, others⟩ := List.forall_mem_cons.mp clean
    have lines : (unlines ((p :: pairs).map line)).toList =
        p.line.toList ++ '\n' :: (unlines (pairs.map line)).toList := by
      simp [unlines]
    have rest := ih others
    rw [ofText] at rest
    rw [ofText, lines, Text.pieces_append first.line_not_mem, List.filterMap_cons_some
      first.ofLine?_line, rest]

theorem clean_of_mem_prioritized {source : String} (h : p ∈ prioritized (ofText source)) :
    p.Clean :=
  clean_of_mem_ofText ((prioritized_perm _).subset h)

/-- The pairs of a directive can always be put in order. -/
theorem sorted_ofText (source : String) :
    sorted (ofText source) = .ok (prioritized (ofText source)) :=
  sorted_eq_ok_iff.mpr ⟨fun _ member => (clean_of_mem_ofText member).named, rfl⟩

/-- The text of a directive's pairs in the order in which they are read. -/
def rendered (source : String) : String :=
  text (prioritized (ofText source))

theorem ofText_rendered (source : String) :
    ofText (rendered source) = prioritized (ofText source) :=
  ofText_text fun _ => clean_of_mem_prioritized

theorem sorted_ofText_rendered (source : String) :
    sorted (ofText (rendered source)) = .ok (prioritized (ofText source)) := by
  rw [sorted_ofText, ofText_rendered, prioritized_prioritized]

end Pair

namespace Engine

theorem runText_eq_runSorted (e : Engine) (source : String) :
    e.runText source = e.runSorted (Pair.prioritized (Pair.ofText source)) := by
  simp only [runText, runPairs, Pair.sorted_ofText]

theorem runText_rendered_eq (e : Engine) (source : String) :
    e.runText (Pair.rendered source) = e.runText source := by
  rw [runText_eq_runSorted, runText_eq_runSorted, Pair.ofText_rendered, Pair.prioritized_prioritized]

/-- The text of a directive's pairs in order, from which its key is made, holds these pairs in this
order, also as it is printed, and it comes to the same as the directive. So directives of which this
text is the same come to the same. -/
theorem runText_rendered (e : Engine) (source : String) :
    Pair.sorted (Pair.ofText source) = .ok (Pair.prioritized (Pair.ofText source)) ∧
      Pair.ofText (Pair.rendered source) = Pair.prioritized (Pair.ofText source) ∧
      Pair.ofText (unlines ((Pair.prioritized (Pair.ofText source)).map Pair.line)) =
        Pair.prioritized (Pair.ofText source) ∧
      Pair.sorted (Pair.ofText (Pair.rendered source)) =
        .ok (Pair.prioritized (Pair.ofText source)) ∧
      (∀ outcome, e.runText source = .ok outcome →
        outcome.fingerprint = Digest.ofText e.host.digest fingerprintBytes (Pair.rendered source)) ∧
      e.runText (Pair.rendered source) = e.runText source ∧
      ∀ other, Pair.rendered other = Pair.rendered source → e.runText other = e.runText source := by
  refine ⟨Pair.sorted_ofText source, Pair.ofText_rendered source,
    Pair.ofText_unlines fun _ => Pair.clean_of_mem_prioritized,
    Pair.sorted_ofText_rendered source, fun outcome ran => ?_, runText_rendered_eq e source, ?_⟩
  · rw [runText_eq_runSorted] at ran
    obtain ⟨-, -, rfl⟩ := runSorted_eq_ok_iff.mp ran
    rfl
  · intro other same
    rw [← runText_rendered_eq e other, same, runText_rendered_eq]

theorem runText_rendered_sigma :
    let e : Engine := ⟨.standard, {}, Site.host {}⟩
    let source := "\n MODE\t= Inline \r\n no pair\nİΣ =a=b\r c \n\ncount=\ncategory=Cats"
    Pair.rendered source = "category=Cats\nmode=Inline\ni̇ς=a=b\r c\ncount=" ∧
      Pair.ofText (Pair.rendered source) =
        [("category", "Cats"), ("mode", "Inline"), ("i̇ς", "a=b\r c"), ("count", "")] ∧
      e.runText "category=Cats\nmode=Inline\ni̇ς=a=b\r c\ncount=" = e.runText source ∧
      e.runText "count=\nMode= Inline" = e.runText "count=\n\nmode=Inline\r\n" := by
  intro e source
  obtain ⟨-, again, -, -, -, same, -⟩ := runText_rendered e source
  obtain ⟨-, -, -, -, -, -, alike⟩ := runText_rendered e "count=\n\nmode=Inline\r\n"
  have shown : Pair.rendered source = "category=Cats\nmode=Inline\ni̇ς=a=b\r c\ncount=" := by
    decide +kernel
  have pairs : Pair.prioritized (Pair.ofText source) =
      [("category", "Cats"), ("mode", "Inline"), ("i̇ς", "a=b\r c"), ("count", "")] := by
    decide +kernel
  refine ⟨shown, again.trans pairs, ?_, alike _ (by decide +kernel)⟩
  rwa [shown] at same

end Engine

end WikiQuery
