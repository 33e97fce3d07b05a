import WikiQuery.Proofs.NamespacePrefix
import WikiQuery.Proofs.Rendering

/-!
The lines of a directive. A line break ends a line, alone or behind a carriage return; a carriage return by
itself does not, and the last line need not be ended. None of this can be told from the pairs, so a
directive can be cut at any line break, and the pairs of its parts are its pairs.
-/

set_option autoImplicit false

namespace WikiQuery

namespace Text

variable {c : Char} {line cs : List Char}

/-- A text is cut on either side of a separator by itself. -/
theorem pieces_append_pieces (sep : Char) (cs ds : List Char) :
    pieces sep (cs ++ sep :: ds) = pieces sep cs ++ pieces sep ds := by
  induction cs with
  | nil => simp [pieces]
  | cons c cs ih =>
    rw [List.cons_append, pieces, pieces, ih]
    split
    · rfl
    · obtain ⟨p, ps, parts⟩ := List.exists_cons_of_ne_nil (pieces_ne_nil sep cs)
      rw [parts]
      rfl

/-- A line without the carriage return at its end. -/
def withoutReturn (line : List Char) : List Char :=
  if line.getLast? = some '\r' then line.dropLast else line

/-- The lines of a text. Each line break ends one, with the carriage return in front of it, if there is one;
what stands behind the last line break is a line if there is anything. -/
def lines (cs : List Char) : List (List Char) :=
  (pieces '\n' cs).dropLast.map withoutReturn ++
    (pieces '\n' cs).getLast?.toList.filter fun line => !line.isEmpty

theorem trimEnd_concat (blank : isBlank c = true) (cs : List Char) : trimEnd (cs ++ [c]) = trimEnd cs := by
  induction cs with
  | nil => simp [trimEnd, blank]
  | cons d cs ih => rw [List.cons_append, trimEnd_cons, trimEnd_cons, ih]

theorem trimmed_withoutReturn (line : List Char) : trimmed (withoutReturn line) = trimmed line := by
  unfold withoutReturn
  split
  · rename_i returns
    have parts := List.dropLast_append_getLast? '\r' returns
    have blank : isBlank '\r' = true := by decide
    calc trimmed line.dropLast
        = trimStart (trimEnd line.dropLast) := (trimStart_trimEnd _).symm
      _ = trimStart (trimEnd (line.dropLast ++ ['\r'])) := by rw [trimEnd_concat blank]
      _ = trimmed line := by rw [parts, trimStart_trimEnd, trimmed]
  · rfl

/-- What is read from lines is read from the pieces between the line breaks, if nothing is read from an
empty line, and a carriage return at the end of a line does not count. -/
theorem filterMap_lines {α : Type} {f : List Char → Option α} (empty : f [] = none)
    (same : ∀ line, f (withoutReturn line) = f line) (cs : List Char) :
    (lines cs).filterMap f = (pieces '\n' cs).filterMap f := by
  have inhabited := pieces_ne_nil '\n' cs
  have ended : (pieces '\n' cs).dropLast.filterMap (f ∘ withoutReturn) =
      (pieces '\n' cs).dropLast.filterMap f :=
    List.filterMap_congr fun line _ => same line
  have last : ([(pieces '\n' cs).getLast inhabited].filter fun line => !line.isEmpty).filterMap f =
      [(pieces '\n' cs).getLast inhabited].filterMap f := by
    cases (pieces '\n' cs).getLast inhabited with
    | nil => simp [empty]
    | cons c line => rfl
  rw [lines, List.filterMap_append, List.filterMap_map, ended,
    List.getLast?_eq_some_getLast inhabited, Option.toList_some, last, ← List.filterMap_append,
    List.dropLast_append_getLast inhabited]

end Text

open Text (trimmed)

namespace Pair

/-- White space at the ends of a line does not count. -/
theorem ofLine?_trimmed (line : List Char) : ofLine? (trimmed line) = ofLine? line := by
  cases parts : Text.cut? '=' line with
  | none =>
    have absent := Text.cut?_eq_none_iff.mp parts
    have gone : Text.cut? '=' (trimmed line) = none :=
      Text.cut?_eq_none_iff.mpr fun member => absent ((Text.trimmed_sublist line).subset member)
    rw [ofLine?, ofLine?, parts, gone]
  | some cut =>
    obtain ⟨name, value⟩ := cut
    obtain ⟨rfl, unequal⟩ := Text.eq_of_cut?_eq_some parts
    have solid : Text.isBlank '=' = false := by decide
    have front : '=' ∉ Text.trimStart name := fun member =>
      unequal ((List.dropWhile_sublist _).subset member)
    have ends : trimmed (name ++ '=' :: value) =
        Text.trimStart name ++ '=' :: Text.trimEnd value := by
      rw [trimmed, Text.trimStart_append solid, Text.trimEnd_append solid]
    have sameName : trimmed (Text.trimStart name) = trimmed name := by
      rw [trimmed, Text.trimStart_trimStart, trimmed]
    have sameValue : trimmed (Text.trimEnd value) = trimmed value := by
      rw [trimmed, Text.trimStart_trimEnd, Text.trimEnd_trimEnd, trimmed]
    simp only [ofLine?, ends, Text.cut?_append front, parts, sameName, sameValue]

/-- The pairs of a directive are those of its lines. -/
theorem ofText_eq_lines (text : String) :
    ofText text = (Text.lines text.toList).filterMap fun line => ofLine? (trimmed line) := by
  have empty : ofLine? (trimmed []) = none := by decide
  have same : ∀ line, ofLine? (trimmed (Text.withoutReturn line)) = ofLine? (trimmed line) := by
    intro line
    rw [Text.trimmed_withoutReturn]
  rw [Text.filterMap_lines (f := fun line => ofLine? (trimmed line)) empty same]
  exact List.filterMap_congr fun line _ => (ofLine?_trimmed line).symm

theorem ofText_line {p : Pair} (clean : p.Clean) : ofText p.line = [p] := by
  rw [ofText, Text.pieces_of_not_mem clean.line_not_mem, List.filterMap_cons_some clean.ofLine?_line,
    List.filterMap_nil]

/-- A directive in two parts, one behind the other with a line break between them, has the pairs of the
one and then those of the other. Its pairs are read from its lines, one from each that holds one, and
what can be read are the clean pairs: the name is there, trimmed, in lower case and without an equals
sign, the value is trimmed, and neither holds a line break. -/
theorem ofText_append_newline (front back : String) :
    ofText (front ++ "\n" ++ back) = ofText front ++ ofText back ∧
      (∀ text, ofText text =
        (Text.lines text.toList).filterMap fun line => ofLine? (trimmed line)) ∧
      ∀ p : Pair, (∃ text, p ∈ ofText text) ↔ p.Clean := by
  refine ⟨?_, ofText_eq_lines, fun p => ⟨?_, fun clean => ⟨p.line, ?_⟩⟩⟩
  · have parts : (front ++ "\n" ++ back).toList = front.toList ++ '\n' :: back.toList := by simp
    rw [ofText, parts, Text.pieces_append_pieces, List.filterMap_append, ofText, ofText]
  · rintro ⟨text, member⟩
    exact clean_of_mem_ofText member
  · rw [ofText_line clean]
    exact List.mem_singleton_self p

end Pair

end WikiQuery
