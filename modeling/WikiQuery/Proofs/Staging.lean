import WikiQuery.Proofs.Law

/-!
What comes of a text that is read in the common way. The stages that a parameter has decide on one of
five forms of values, and the first stage on whether the text is taken at all.
-/

set_option autoImplicit false

namespace WikiQuery.Reading

variable {host : Host} {p : Parameter} {spec : Specification} {text : String} {value : Value}

/-- The values that the common stages make of a text. Those for pages, patterns and plain text are made
of the text `t` that comes out of the stages before them; without a point in time to be read, this is
the prepared text. -/
inductive StagedAs (host : Host) (p : Parameter) (spec : Specification) (text : String) :
    Value → Prop
  | int {n : Int} (integer : p.isInteger = true) : StagedAs host p spec text (.int n)
  | bool {b : Bool} (other : p.isInteger = false) (boolean : p.isBoolean = true) :
      StagedAs host p spec text (.bool b)
  | pages {kind : PageNames} {t : String} {pages : List PageReference}
      (other : p.isInteger = false ∧ p.isBoolean = false) (listed : p.pageNames = some kind)
      (read : pageList? host kind t = some pages) (inhabited : pages ≠ []) :
      StagedAs host p spec text (.pageGroups ((spec.pageGroups? p.name).getD [] ++ [pages]))
  | captured {source t : String} {groups : List String}
      (other : p.isInteger = false ∧ p.isBoolean = false) (unlisted : p.pageNames = none)
      (pattern : p.pattern = some source) (read : capturedGroups? host p source t = some groups) :
      StagedAs host p spec text (.list groups)
  | plain {t : String} (other : p.isInteger = false ∧ p.isBoolean = false)
      (unlisted : p.pageNames = none) (free : p.pattern = none)
      (untimed : p.isTimestamp = false → t = prepared p text)
      (timed : p.isTimestamp = true → host.normalizeTimestamp (prepared p text) = some t) :
      StagedAs host p spec text (.text (if p.isKey then Text.toKey t else t))

private theorem stagedAs_textualValue? {t : String}
    (other : p.isInteger = false ∧ p.isBoolean = false)
    (untimed : p.isTimestamp = false → t = prepared p text)
    (timed : p.isTimestamp = true → host.normalizeTimestamp (prepared p text) = some t)
    (h : textualValue? host p spec t = some value) : StagedAs host p spec text value := by
  simp only [textualValue?] at h
  cases listed : p.pageNames with
  | some kind =>
    cases read : pageList? host kind t with
    | none => simp [listed, read] at h
    | some pages =>
      cases pages with
      | nil => simp [listed, read] at h
      | cons page pages =>
        simp only [listed, read, Option.some.injEq] at h
        exact h ▸ .pages other listed read (List.cons_ne_nil page pages)
  | none =>
    cases pattern : p.pattern with
    | some source =>
      simp only [listed, pattern, Option.map_eq_some_iff] at h
      obtain ⟨groups, read, rfl⟩ := h
      exact .captured other listed pattern read
    | none =>
      simp only [listed, pattern, Option.some.injEq] at h
      exact h ▸ .plain other listed pattern untimed timed

/-- A text that is taken in the common way is among the values of the parameter, if these are named,
and its value has one of the five forms. -/
theorem stagedAs_of_staged? (h : staged? host p spec text = some value) :
    p.allows (Text.lower text) = true ∧ StagedAs host p spec text value := by
  simp only [staged?] at h
  split at h
  · cases h
  · rename_i allowed
    refine ⟨by simpa using allowed, ?_⟩
    cases integer : p.isInteger with
    | true =>
      rw [integer, if_pos rfl] at h
      obtain ⟨n, -, rfl⟩ := Option.map_eq_some_iff.mp h
      exact .int integer
    | false =>
      cases boolean : p.isBoolean with
      | true =>
        simp only [integer, boolean, Bool.false_eq_true, if_false, if_true] at h
        obtain ⟨b, -, rfl⟩ := Option.map_eq_some_iff.mp h
        exact .bool integer boolean
      | false =>
        simp only [integer, boolean, Bool.false_eq_true, if_false] at h
        cases timed : p.isTimestamp with
        | true =>
          rw [timed, if_pos rfl] at h
          obtain ⟨time, normal, read⟩ := Option.bind_eq_some_iff.mp h
          exact stagedAs_textualValue? ⟨integer, boolean⟩ (by simp [timed]) (fun _ => normal) read
        | false =>
          rw [timed, if_neg Bool.false_ne_true] at h
          exact stagedAs_textualValue? ⟨integer, boolean⟩ (fun _ => rfl) (by simp [timed]) h

end WikiQuery.Reading
