import WikiQuery.Pattern

/-!
The places of a text from which a match may start. They are found from the end of the text to its
start, with one look at each character for each part of the pattern, and without a trial of all ways.
The main statement says that no place is passed over from which there is a way.

A place is told by the number of characters behind it, and a list that says something of each place
has the end of the text in front. The characters are therefore given backwards.
-/

set_option autoImplicit false

namespace WikiQuery.Pattern

/-- The class of a pattern that is one character. -/
def class? : Pattern → Option CharClass
  | one c => some c
  | _ => none

/-- Whether a run of characters of a class leads on, for the places in front of characters; `behind`
says so for the place behind the first one of them. -/
def runProspects (c : CharClass) (behind : Bool) : List Char → List Bool → List Bool
  | d :: back, ok :: onward =>
    let here := ok || (c.contains d && behind)
    here :: runProspects c here back onward
  | _, _ => []

/-- Whether a match of a pattern may lead on, for each place, where `onward` says of each place
whether a match that ends there leads on. Of repetitions only those of one character are looked at. -/
def prospects (back : List Char) (p : Pattern) (onward : List Bool) : List Bool :=
  match p with
  | empty => onward
  | one c => false :: List.zipWith (fun d ok => c.contains d && ok) back onward
  | start => List.replicate back.length false ++ onward.drop back.length
  | finish => onward.take 1 ++ List.replicate back.length false
  | seq p q => prospects back p (prospects back q onward)
  | alt p q => List.zipWith or (prospects back p onward) (prospects back q onward)
  | star p =>
    match p.class?, onward with
    | some c, ok :: onward => ok :: runProspects c ok back onward
    | _, _ => onward.map fun _ => true
  | maybe p => List.zipWith or (prospects back p onward) onward
  | group _ p => prospects back p onward

/-- Whether progress has come to a place of the text that is given backwards. -/
def Progress.Within (back : List Char) (m : Progress) : Prop :=
  m.rest.reverse <+: back

theorem Progress.rest_of_step? {m next : Progress} {c : CharClass} (h : m.step? c = some next) :
    ∃ d, m.rest = d :: next.rest ∧ c.contains d = true := by
  unfold step? next? at h
  split at h
  · next d _ hnext =>
    split at hnext
    · simp at hnext
    · next hrest =>
      simp only [Option.some.injEq, Prod.mk.injEq] at hnext
      split at h
      · next hc =>
        refine ⟨d, ?_, hc⟩
        rw [hrest, hnext.1, ← Option.some.inj h, ← hnext.2]
      · simp at h
  · simp at h

/-- A way takes in characters from the front of what is left. -/
theorem rest_of_mem_ways {whole : Nat} {p : Pattern} {m mid : Progress}
    (h : mid ∈ ways whole p m) : mid.rest <:+ m.rest := by
  fun_induction ways whole p m generalizing mid with
  | case1 m => exact List.mem_singleton.1 h ▸ List.suffix_refl _
  | case2 m c =>
    obtain ⟨d, hrest, _⟩ := Progress.rest_of_step? (Option.mem_toList.1 h)
    exact hrest ▸ List.suffix_cons d _
  | case3 | case5 => exact List.mem_singleton.1 h ▸ List.suffix_refl _
  | case4 | case6 => simp at h
  | case7 m p q ihq ihp =>
    obtain ⟨next, hnext, hmid⟩ := List.mem_flatMap.1 h
    exact (ihq next hmid).trans (ihp hnext)
  | case8 m p q ihp ihq =>
    rcases List.mem_append.1 h with h | h
    · exact ihp h
    · exact ihq h
  | case9 m p ihstar ihp =>
    rcases List.mem_append.1 h with h | h
    · obtain ⟨next, hnext, hmid⟩ := List.mem_flatMap.1 h
      split at hmid
      · next hlt => exact (ihstar next hlt hmid).trans (ihp hnext)
      · simp at hmid
    · exact List.mem_singleton.1 h ▸ List.suffix_refl _
  | case10 m p ihp =>
    rcases List.mem_append.1 h with h | h
    · exact ihp h
    · exact List.mem_singleton.1 h ▸ List.suffix_refl _
  | case11 m index p ihp =>
    obtain ⟨next, hnext, rfl⟩ := List.mem_map.1 h
    have hsuffix := ihp hnext
    exact hsuffix

theorem Progress.Within.of_suffix {back : List Char} {m mid : Progress} (h : m.Within back)
    (hsuffix : mid.rest <:+ m.rest) : mid.Within back :=
  (List.reverse_prefix.2 hsuffix).trans h

theorem Progress.Within.left_le {back : List Char} {m : Progress} (h : m.Within back) :
    m.left ≤ back.length := by
  have := h.length_le
  rwa [List.length_reverse, ← m.left_eq] at this

/-- The next character stands where its place says. -/
theorem Progress.Within.getElem?_left {back : List Char} {m next : Progress} {d : Char}
    (h : m.Within back) (hrest : m.rest = d :: next.rest) :
    m.left = next.left + 1 ∧ back[next.left]? = some d := by
  refine ⟨by rw [m.left_eq, next.left_eq, hrest, List.length_cons], ?_⟩
  obtain ⟨behind, hback⟩ := h
  have hplace : next.left = next.rest.reverse.length := by rw [next.left_eq, List.length_reverse]
  rw [← hback, hrest, hplace, List.reverse_cons, List.append_assoc,
    List.getElem?_append_right (Nat.le_refl _)]
  simp

theorem length_runProspects {c : CharClass} {behind : Bool} {back : List Char} {onward : List Bool}
    (h : onward.length = back.length) : (runProspects c behind back onward).length = back.length := by
  induction back generalizing behind onward with
  | nil => rfl
  | cons d back ih =>
    cases onward with
    | nil => simp at h
    | cons ok onward =>
      simp only [runProspects, List.length_cons, Nat.add_right_cancel_iff] at h ⊢
      exact ih h

theorem length_prospects {back : List Char} {p : Pattern} {onward : List Bool}
    (h : onward.length = back.length + 1) :
    (prospects back p onward).length = back.length + 1 := by
  induction p generalizing onward with
  | empty => exact h
  | one c => simp [prospects, h]
  | start => simp [prospects, h]
  | finish => simp [prospects, h]; omega
  | seq p q ihp ihq => exact ihp (ihq h)
  | alt p q ihp ihq => simp [prospects, ihp h, ihq h]
  | star p =>
    unfold prospects
    split
    · rw [List.length_cons, Nat.add_right_cancel_iff] at h
      rw [List.length_cons, length_runProspects h]
    · simp [h]
  | maybe p ih => simp [prospects, ih h, h]
  | group index p ih => exact ih h

theorem runProspects_of_onward {c : CharClass} {behind : Bool} {back : List Char}
    {onward : List Bool} {place : Nat} (hlt : place < back.length)
    (h : onward[place]? = some true) : (runProspects c behind back onward)[place]? = some true := by
  induction back generalizing behind onward place with
  | nil => simp at hlt
  | cons d back ih =>
    cases onward with
    | nil => simp at h
    | cons ok onward =>
      cases place with
      | zero => simp_all [runProspects]
      | succ place =>
        rw [List.length_cons, Nat.add_lt_add_iff_right] at hlt
        exact ih hlt h

theorem runProspects_of_behind {c : CharClass} {behind : Bool} {back : List Char}
    {onward : List Bool} {place : Nat} {d : Char} (hd : back[place]? = some d)
    (hc : c.contains d = true) (hlt : place < onward.length)
    (h : (behind :: runProspects c behind back onward)[place]? = some true) :
    (runProspects c behind back onward)[place]? = some true := by
  induction place generalizing behind back onward with
  | zero =>
    cases back <;> cases onward <;> simp_all [runProspects]
  | succ place ih =>
    cases back with
    | nil => simp at hd
    | cons d back =>
      cases onward with
      | nil => simp at hlt
      | cons ok onward =>
        rw [List.length_cons, Nat.add_lt_add_iff_right] at hlt
        exact ih hd hlt h

theorem zipWith_or_of_left {as bs : List Bool} {place : Nat} (hlen : as.length = bs.length)
    (h : as[place]? = some true) : (List.zipWith or as bs)[place]? = some true := by
  obtain ⟨hlt, _⟩ := List.getElem?_eq_some_iff.1 h
  rw [List.getElem?_zipWith, h, List.getElem?_eq_getElem (hlen ▸ hlt)]
  rfl

theorem zipWith_or_of_right {as bs : List Bool} {place : Nat} (hlen : as.length = bs.length)
    (h : bs[place]? = some true) : (List.zipWith or as bs)[place]? = some true := by
  obtain ⟨hlt, _⟩ := List.getElem?_eq_some_iff.1 h
  rw [List.getElem?_zipWith, h, List.getElem?_eq_getElem (hlen ▸ hlt)]
  simp

theorem runProspects_of_mem_ways {back : List Char} {c : CharClass} {ok : Bool} {onward : List Bool}
    {m mid : Progress} (hlen : onward.length = back.length) (hm : m.Within back)
    (hmid : mid ∈ ways back.length (star (one c)) m) (hok : (ok :: onward)[mid.left]? = some true) :
    (ok :: runProspects c ok back onward)[m.left]? = some true := by
  rw [ways_star] at hmid
  rcases List.mem_append.1 hmid with hmid | hmid
  · obtain ⟨next, hnext, hmid⟩ := List.mem_flatMap.1 hmid
    rw [ways, Option.mem_toList] at hnext
    have hlt := Progress.left_of_step? hnext
    rw [if_pos hlt] at hmid
    obtain ⟨d, hrest, hc⟩ := Progress.rest_of_step? hnext
    obtain ⟨hleft, hback⟩ := hm.getElem?_left hrest
    have hwithin := hm.of_suffix (hrest ▸ List.suffix_cons d next.rest)
    have hbehind := runProspects_of_mem_ways hlen hwithin hmid hok
    obtain ⟨hplace, _⟩ := List.getElem?_eq_some_iff.1 hback
    rw [hleft]
    exact runProspects_of_behind hback hc (hlen ▸ hplace) hbehind
  · rw [List.mem_singleton] at hmid
    subst hmid
    cases hleft : mid.left with
    | zero => simpa [hleft] using hok
    | succ place =>
      rw [hleft] at hok
      have hplace := hm.left_le
      rw [hleft] at hplace
      exact runProspects_of_onward hplace hok
termination_by m.left

/-- A way that leads on starts from a place that is looked at. -/
theorem prospects_of_mem_ways {back : List Char} {p : Pattern} {onward : List Bool}
    {m mid : Progress} (hlen : onward.length = back.length + 1) (hm : m.Within back)
    (hmid : mid ∈ ways back.length p m) (hok : onward[mid.left]? = some true) :
    (prospects back p onward)[m.left]? = some true := by
  induction p generalizing onward m mid with
  | empty =>
    rw [ways, List.mem_singleton] at hmid
    exact hmid ▸ hok
  | one c =>
    rw [ways, Option.mem_toList] at hmid
    obtain ⟨d, hrest, hc⟩ := Progress.rest_of_step? hmid
    obtain ⟨hleft, hback⟩ := hm.getElem?_left hrest
    simp [prospects, hleft, List.getElem?_zipWith, hback, hok, hc]
  | start =>
    rw [ways] at hmid
    split at hmid
    · next hwhole =>
      rw [List.mem_singleton] at hmid
      subst hmid
      rw [hwhole] at hok
      rw [prospects, hwhole, List.getElem?_append_right (by simp)]
      simpa using hok
    · simp at hmid
  | finish =>
    rw [ways] at hmid
    split at hmid
    · next hzero =>
      rw [List.mem_singleton] at hmid
      subst hmid
      rw [hzero] at hok ⊢
      cases onward with
      | nil => simp at hok
      | cons ok onward => simpa [prospects] using hok
    · simp at hmid
  | seq p q ihp ihq =>
    rw [ways] at hmid
    obtain ⟨next, hnext, hmid⟩ := List.mem_flatMap.1 hmid
    have hwithin := hm.of_suffix (rest_of_mem_ways hnext)
    exact ihp (length_prospects hlen) hm hnext (ihq hlen hwithin hmid hok)
  | alt p q ihp ihq =>
    rw [ways] at hmid
    have hboth := (length_prospects (p := p) hlen).trans (length_prospects (p := q) hlen).symm
    rcases List.mem_append.1 hmid with hmid | hmid
    · exact zipWith_or_of_left hboth (ihp hlen hm hmid hok)
    · exact zipWith_or_of_right hboth (ihq hlen hm hmid hok)
  | star p ih =>
    unfold prospects
    split
    · next c ok onward hclass =>
      cases p with
      | one d =>
        rw [class?, Option.some.injEq] at hclass
        subst hclass
        exact runProspects_of_mem_ways (Nat.add_right_cancel hlen) hm hmid hok
      | _ => simp [class?] at hclass
    · have hlt := Nat.lt_of_le_of_lt hm.left_le (Nat.lt_of_succ_le (Nat.le_of_eq hlen.symm))
      rw [List.getElem?_map, List.getElem?_eq_getElem hlt]
      rfl
  | maybe p ih =>
    rw [ways] at hmid
    have hboth := (length_prospects (p := p) hlen).trans hlen.symm
    rcases List.mem_append.1 hmid with hmid | hmid
    · exact zipWith_or_of_left hboth (ih hlen hm hmid hok)
    · rw [List.mem_singleton] at hmid
      exact zipWith_or_of_right hboth (hmid ▸ hok)
  | group index p ih =>
    rw [ways] at hmid
    obtain ⟨next, hnext, rfl⟩ := List.mem_map.1 hmid
    exact ih hlen hm hnext hok

end WikiQuery.Pattern
