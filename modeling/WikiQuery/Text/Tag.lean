/-!
Removal of tags that mention `html`. A tag opens with `<`, holds `html` in any case of its letters
and ends with the first `>` behind that; all else, markup included, is kept.
-/

set_option autoImplicit false

namespace WikiQuery.Text

/-- The text behind the first mention of `html`, in any case of its letters. -/
def behindHtml? : List Char → Option (List Char)
  | a :: b :: c :: d :: cs =>
    if a.toLower = 'h' ∧ b.toLower = 't' ∧ c.toLower = 'm' ∧ d.toLower = 'l' then some cs
    else behindHtml? (b :: c :: d :: cs)
  | _ => none

/-- The text behind the first `>`. -/
def behindClose? : List Char → Option (List Char)
  | [] => none
  | c :: cs => if c = '>' then some cs else behindClose? cs

/-- The text behind a tag that mentions `html`, for the text behind the opening `<`. -/
def behindTag? (cs : List Char) : Option (List Char) :=
  (behindHtml? cs).bind behindClose?

theorem length_behindHtml? {cs behind : List Char} (h : behindHtml? cs = some behind) :
    behind.length < cs.length := by
  fun_induction behindHtml? cs with
  | case1 a b c d cs hc => simp only [Option.some.injEq] at h; simp only [← h, List.length_cons]; omega
  | case2 a b c d cs _ ih => exact Nat.lt_succ_of_lt (ih h)
  | case3 => simp at h

theorem length_behindClose? {cs behind : List Char} (h : behindClose? cs = some behind) :
    behind.length < cs.length := by
  induction cs with
  | nil => simp [behindClose?] at h
  | cons c cs ih =>
    by_cases hc : c = '>'
    · simp only [behindClose?, hc, if_true, Option.some.injEq] at h
      simp [← h]
    · simp only [behindClose?, hc, if_false] at h
      exact Nat.lt_succ_of_lt (ih h)

theorem length_behindTag? {cs behind : List Char} (h : behindTag? cs = some behind) :
    behind.length < cs.length := by
  obtain ⟨mid, h₁, h₂⟩ := Option.bind_eq_some_iff.1 h
  exact Nat.lt_trans (length_behindClose? h₂) (length_behindHtml? h₁)

/-- The text without its tags that mention `html`. Where no tag ends, nothing more is left out. -/
def untagged : List Char → List Char
  | [] => []
  | c :: cs =>
    if c = '<' then
      match _h : behindTag? cs with
      | some behind => untagged behind
      | none => '<' :: cs
    else c :: untagged cs
termination_by cs => cs.length
decreasing_by
  · simpa using Nat.lt_succ_of_lt (length_behindTag? _h)
  · simp

/-- The text without its tags that mention `html`. -/
def stripHtmlTags (s : String) : String :=
  String.ofList (untagged s.toList)

end WikiQuery.Text
