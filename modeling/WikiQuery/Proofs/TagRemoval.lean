import Mathlib.Tactic.ByContra
import WikiQuery.Text.Split
import WikiQuery.Text.Tag

/-!
The removal of tags that mention `html`. A match begins at the first `<` from which there is one at all,
and takes in as little as it can, first in front of the mention and then behind it. No `<` that is left
in front of a match begins another, so what closes up where a match was removed is no tag.
-/

set_option autoImplicit false

namespace WikiQuery.Text

variable {cs plain rest before word after behind out : List Char} {c : Char}

/-- The word `html` in any case of its letters. -/
def IsMention (word : List Char) : Prop :=
  word.map Char.toLower = ['h', 't', 'm', 'l']

/-- A text behind a `<` goes on to a mention of `html` and from there to a `>`. -/
structure Closes (rest before word after behind : List Char) : Prop where
  mention : IsMention word
  parts : rest = before ++ (word ++ (after ++ '>' :: behind))

/-- It does so with as little as can be in front of the mention, and then behind it. -/
structure ClosesLazily (rest before word after behind : List Char) : Prop
    extends Closes rest before word after behind where
  first : ∀ before' word' after' behind', Closes rest before' word' after' behind' →
    before.length ≤ before'.length
  second : ∀ after' behind', Closes rest before word after' behind' → after.length ≤ after'.length

/-- No `<` is followed by a mention of `html` and then by a `>`, however far behind. -/
def TagFree (cs : List Char) : Prop :=
  ∀ plain rest before word after behind, cs = plain ++ '<' :: rest →
    ¬Closes rest before word after behind

/-- What becomes of a text when the leftmost match is removed, and then those behind it. -/
inductive Strips : List Char → List Char → Prop
  | none {cs : List Char} (free : TagFree cs) : Strips cs cs
  | tag {plain rest before word after behind out : List Char}
      (leftmost : ∀ plain' rest' before' word' after' behind',
        plain ++ '<' :: rest = plain' ++ '<' :: rest' →
        Closes rest' before' word' after' behind' → plain.length ≤ plain'.length)
      (closes : ClosesLazily rest before word after behind) (later : Strips behind out) :
      Strips (plain ++ '<' :: rest) (plain ++ out)

theorem IsMention.length_eq (mention : IsMention word) : word.length = 4 := by
  simpa using congrArg List.length mention

theorem behindHtml?_of_mention (mention : IsMention word) (cs : List Char) :
    behindHtml? (word ++ cs) = some cs := by
  simp only [IsMention, List.map_eq_cons_iff, List.map_eq_nil_iff] at mention
  obtain ⟨a, _, rfl, ha, b, _, rfl, hb, c, _, rfl, hc, d, _, rfl, hd, rfl⟩ := mention
  exact if_pos ⟨ha, hb, hc, hd⟩

theorem behindHtml?_cons_of_not_mention
    (other : ∀ word rest, IsMention word → c :: cs ≠ word ++ rest) :
    behindHtml? (c :: cs) = behindHtml? cs := by
  match cs with
  | b :: d :: e :: cs =>
    refine if_neg fun mention => other [c, b, d, e] cs ?_ rfl
    simpa [IsMention] using mention
  | [] | [_] | [_, _] => rfl

/-- The first mention of `html` is found, if there is one. -/
theorem behindHtml?_cases (cs : List Char) :
    (behindHtml? cs = none ∧
      ∀ before word behind, IsMention word → cs ≠ before ++ (word ++ behind)) ∨
    ∃ before word behind, behindHtml? cs = some behind ∧ IsMention word ∧
      cs = before ++ (word ++ behind) ∧
      ∀ before' word' behind', IsMention word' → cs = before' ++ (word' ++ behind') →
        before.length ≤ before'.length := by
  induction cs with
  | nil =>
    refine .inl ⟨rfl, fun before word behind mention parts => ?_⟩
    have length := congrArg List.length parts
    simp only [List.length_nil, List.length_append, mention.length_eq] at length
    omega
  | cons c cs ih =>
    by_cases begins : ∃ word rest, IsMention word ∧ c :: cs = word ++ rest
    · obtain ⟨word, rest, mention, parts⟩ := begins
      refine .inr ⟨[], word, rest, ?_, mention, parts, fun _ _ _ _ _ => Nat.zero_le _⟩
      rw [parts, behindHtml?_of_mention mention]
    · have other : ∀ word rest, IsMention word → c :: cs ≠ word ++ rest :=
        fun word rest mention parts => begins ⟨word, rest, mention, parts⟩
      -- No mention begins here, so what stands in front of one begins with this character.
      have front : ∀ before word behind, IsMention word → c :: cs = before ++ (word ++ behind) →
          ∃ before', before = c :: before' ∧ cs = before' ++ (word ++ behind) := by
        intro before word behind mention parts
        cases before with
        | nil => exact absurd parts (other word behind mention)
        | cons d before =>
          obtain ⟨rfl, later⟩ := List.cons.inj parts
          exact ⟨before, rfl, later⟩
      rw [behindHtml?_cons_of_not_mention other]
      rcases ih with ⟨none, absent⟩ | ⟨before, word, behind, found, mention, parts, least⟩
      · refine .inl ⟨none, fun before word behind mention parts => ?_⟩
        obtain ⟨before', -, later⟩ := front before word behind mention parts
        exact absent before' word behind mention later
      · refine .inr ⟨c :: before, word, behind, found, mention, congrArg (c :: ·) parts, ?_⟩
        intro before' word' behind' mention' parts
        obtain ⟨before', rfl, later⟩ := front before' word' behind' mention' parts
        exact Nat.succ_le_succ (least before' word' behind' mention' later)

theorem behindClose?_eq (cs : List Char) : behindClose? cs = (cut? '>' cs).map (·.2) := by
  induction cs with
  | nil => rfl
  | cons c cs ih =>
    rw [behindClose?, cut?]
    split
    · rfl
    · rw [ih, Option.map_map]
      rfl

/-- Where a text goes on to the end of a tag, the shortest way there is found; where it does not,
nothing is. -/
theorem behindTag?_cases (rest : List Char) :
    (behindTag? rest = none ∧ ∀ before word after behind, ¬Closes rest before word after behind) ∨
    ∃ before word after behind, behindTag? rest = some behind ∧
      ClosesLazily rest before word after behind := by
  unfold behindTag?
  rcases behindHtml?_cases rest with
    ⟨none, absent⟩ | ⟨before, word, tail, found, mention, parts, least⟩
  · exact .inl ⟨by rw [none]; rfl, fun before word after behind closes =>
      absent before word _ closes.mention closes.parts⟩
  · rw [found, Option.bind_some, behindClose?_eq]
    have first : ∀ before' word' after' behind', Closes rest before' word' after' behind' →
        before.length ≤ before'.length := fun before' word' after' behind' closes =>
      least before' word' _ closes.mention closes.parts
    cases cut : cut? '>' tail with
    | none =>
      refine .inl ⟨rfl, fun before' word' after' behind' closes => cut?_eq_none_iff.mp cut ?_⟩
      -- A `>` behind any mention stands behind the first one.
      have here : tail <:+ rest := ⟨before ++ word, by rw [parts, List.append_assoc]⟩
      have there : '>' :: behind' <:+ rest :=
        ⟨before' ++ (word' ++ after'), by rw [closes.parts]; simp⟩
      have long := first before' word' after' behind' closes
      have length := congrArg List.length (parts.symm.trans closes.parts)
      simp only [List.length_append, mention.length_eq, closes.mention.length_eq] at length
      refine (List.suffix_of_suffix_length_le there here ?_).subset List.mem_cons_self
      omega
    | some found =>
      obtain ⟨after, behind⟩ := found
      obtain ⟨rfl, apart⟩ := eq_of_cut?_eq_some cut
      refine .inr ⟨before, word, after, behind, rfl, ⟨mention, parts⟩, first, ?_⟩
      intro after' behind' closes
      by_contra short
      have same : after ++ '>' :: behind = after' ++ '>' :: behind' := by
        simpa using parts.symm.trans closes.parts
      have here : after <+: after ++ '>' :: behind := List.prefix_append _ _
      have there : after' ++ ['>'] <+: after ++ '>' :: behind := ⟨behind', by rw [same]; simp⟩
      have inside := List.prefix_of_prefix_length_le there here (by simp; omega)
      exact apart (inside.subset (by simp))

theorem behindTag?_eq_none_iff :
    behindTag? rest = none ↔ ∀ before word after behind, ¬Closes rest before word after behind := by
  rcases behindTag?_cases rest with ⟨none, unclosed⟩ | ⟨before, word, after, behind, found, closes⟩
  · exact ⟨fun _ => unclosed, fun _ => none⟩
  · refine ⟨fun none => ?_, fun unclosed => absurd closes.toCloses (unclosed before word after behind)⟩
    rw [found] at none
    cases none

/-- There is one shortest way only. -/
theorem ClosesLazily.behindTag?_eq (h : ClosesLazily rest before word after behind) :
    behindTag? rest = some behind := by
  rcases behindTag?_cases rest with ⟨-, unclosed⟩ | ⟨before', word', after', behind', found, h'⟩
  · exact absurd h.toCloses (unclosed before word after behind)
  · have level : before.length = before'.length :=
      Nat.le_antisymm (h.first _ _ _ _ h'.toCloses) (h'.first _ _ _ _ h.toCloses)
    obtain ⟨rfl, middle⟩ := List.append_inj (h.parts.symm.trans h'.parts) level
    obtain ⟨rfl, finish⟩ := List.append_inj middle
      (h.mention.length_eq.trans h'.mention.length_eq.symm)
    have level : after.length = after'.length :=
      Nat.le_antisymm (h.second _ _ h'.toCloses) (h'.second _ _ h.toCloses)
    obtain ⟨-, closed⟩ := List.append_inj finish level
    rw [found, (List.cons.inj closed).2]

theorem untagged_cons (other : c ≠ '<') (cs : List Char) :
    untagged (c :: cs) = c :: untagged cs := by
  rw [untagged, if_neg other]

theorem untagged_tag (found : behindTag? cs = some behind) :
    untagged ('<' :: cs) = untagged behind := by
  rw [untagged, if_pos rfl]
  split
  · rename_i other found'
    rw [found] at found'
    rw [Option.some.inj found']
  · rename_i none
    rw [found] at none
    cases none

theorem untagged_append (apart : '<' ∉ plain) (cs : List Char) :
    untagged (plain ++ cs) = plain ++ untagged cs := by
  induction plain with
  | nil => rfl
  | cons c plain ih =>
    rw [List.mem_cons, not_or] at apart
    rw [List.cons_append, untagged_cons (Ne.symm apart.1), ih apart.2, List.cons_append]

theorem tagFree_cons_iff (other : c ≠ '<') : TagFree (c :: cs) ↔ TagFree cs := by
  constructor
  · rintro free plain rest before word after behind rfl
    exact free (c :: plain) rest before word after behind rfl
  · intro free plain rest before word after behind parts
    cases plain with
    | nil => exact absurd (List.cons.inj parts).1 other
    | cons d plain => exact free plain rest before word after behind (List.cons.inj parts).2

/-- Where no tag ends behind the first `<`, none ends behind a later one. -/
theorem tagFree_open_iff : TagFree ('<' :: cs) ↔ behindTag? cs = none := by
  rw [behindTag?_eq_none_iff]
  constructor
  · intro free before word after behind
    exact free [] cs before word after behind rfl
  · intro unclosed plain rest before word after behind parts closes
    cases plain with
    | nil =>
      obtain rfl := (List.cons.inj parts).2
      exact unclosed before word after behind closes
    | cons c plain =>
      refine unclosed (plain ++ '<' :: before) word after behind ⟨closes.mention, ?_⟩
      have later : cs = plain ++ '<' :: rest := (List.cons.inj parts).2
      rw [later, closes.parts, List.append_assoc, List.cons_append]

theorem tagFree_untagged (cs : List Char) : TagFree (untagged cs) := by
  fun_induction untagged cs with
  | case1 => intro plain rest before word after behind parts; simp at parts
  | case2 cs behind found ih => exact ih
  | case3 cs none => exact tagFree_open_iff.mpr none
  | case4 c cs other ih => exact (tagFree_cons_iff other).mpr ih

theorem untagged_eq_self_iff : untagged cs = cs ↔ TagFree cs := by
  constructor
  · intro same
    rw [← same]
    exact tagFree_untagged cs
  · intro free
    fun_induction untagged cs with
    | case1 => rfl
    | case2 cs behind found ih =>
      rw [tagFree_open_iff, found] at free
      cases free
    | case3 => rfl
    | case4 c cs other ih => rw [ih ((tagFree_cons_iff other).mp free)]

theorem Strips.cons (other : c ≠ '<') (h : Strips cs out) : Strips (c :: cs) (c :: out) := by
  cases h with
  | none free => exact .none ((tagFree_cons_iff other).mpr free)
  | @tag plain rest before word after behind out leftmost closes later =>
    rw [← List.cons_append, ← List.cons_append]
    refine .tag (fun plain' rest' before' word' after' behind' parts closes' => ?_) closes later
    cases plain' with
    | nil => exact absurd (List.cons.inj parts).1 other
    | cons d plain' =>
      exact Nat.succ_le_succ
        (leftmost plain' rest' before' word' after' behind' (List.cons.inj parts).2 closes')

theorem strips_untagged (cs : List Char) : Strips cs (untagged cs) := by
  fun_induction untagged cs with
  | case1 => exact .none fun plain rest before word after behind parts => by simp at parts
  | case2 cs behind found ih =>
    rcases behindTag?_cases cs with ⟨none, -⟩ | ⟨before, word, after, behind', found', closes⟩
    · rw [found] at none
      cases none
    · obtain rfl := Option.some.inj (found.symm.trans found')
      have front : [] ++ '<' :: cs = '<' :: cs := rfl
      rw [← front]
      exact .tag (fun _ _ _ _ _ _ _ _ => Nat.zero_le _) closes ih
  | case3 cs none => exact .none (tagFree_open_iff.mpr none)
  | case4 c cs other ih => exact ih.cons other

/-- In front of the leftmost match there is no `<`, since a match would begin from it. -/
theorem eq_untagged_of_strips (h : Strips cs out) : out = untagged cs := by
  induction h with
  | none free => exact (untagged_eq_self_iff.mpr free).symm
  | @tag plain rest before word after behind out leftmost closes later ih =>
    have apart : '<' ∉ plain := by
      intro member
      obtain ⟨early, late, rfl⟩ := List.append_of_mem member
      have long := leftmost early (late ++ '<' :: rest) (late ++ '<' :: before) word after behind
        (by simp) ⟨closes.mention, by rw [closes.parts]; simp⟩
      simp only [List.length_append, List.length_cons] at long
      omega
    rw [untagged_append apart, untagged_tag closes.behindTag?_eq, ih]

theorem toList_stripHtmlTags (s : String) : (stripHtmlTags s).toList = untagged s.toList :=
  String.toList_ofList

/-- A library of patterns that removes what the pattern of such tags matches. -/
structure TagRemover where
  remove : String → String
  /-- The pattern is matched from the left, and each time as short as can be. -/
  strips : ∀ s, Strips s.toList (remove s).toList

/-- There is such a library. -/
def TagRemover.standard : TagRemover where
  remove := stripHtmlTags
  strips s := toList_stripHtmlTags s ▸ strips_untagged s.toList

/-- A text is left without its tags, as they are matched from the left and each as short as can be. What
is left has no tag, so the removal is done once and for all, and a text stays as it is if and only if it has
none. No library that matches as documented removes more or less. -/
theorem stripHtmlTags_tagFree (s : String) :
    (∀ out, Strips s.toList out ↔ out = (stripHtmlTags s).toList) ∧
    TagFree (stripHtmlTags s).toList ∧
    stripHtmlTags (stripHtmlTags s) = stripHtmlTags s ∧
    (stripHtmlTags s = s ↔ TagFree s.toList) ∧
    ∀ library : TagRemover, library.remove s = stripHtmlTags s := by
  have kept : ∀ s : String, stripHtmlTags s = s ↔ TagFree s.toList := fun s => by
    rw [← String.toList_inj, toList_stripHtmlTags, untagged_eq_self_iff]
  have free : TagFree (stripHtmlTags s).toList := by
    rw [toList_stripHtmlTags]
    exact tagFree_untagged s.toList
  have only : ∀ out, Strips s.toList out ↔ out = (stripHtmlTags s).toList := fun out => by
    rw [toList_stripHtmlTags]
    constructor
    · exact eq_untagged_of_strips
    · rintro rfl
      exact strips_untagged s.toList
  refine ⟨only, free, (kept _).mpr free, kept s, fun library => ?_⟩
  exact String.toList_inj.mp ((only _).mp (library.strips s))

/-- A match takes in a `<` behind its own, so removing an inner tag does not make an outer one. -/
example : stripHtmlTags "a<ht<HTML>ml>b<html" = "aml>b<html" := by
  cbv

end WikiQuery.Text
