import WikiQuery.Pattern.Prospect

/-!
The search for the first match of a pattern. A way is only gone when all ways that are preferred to it
have failed, and a place is only tried if a match may start from it, so nothing is listed in advance.
The main statements say that the search finds what a look through the list of all ways would find, at
one place and in the whole text.
-/

set_option autoImplicit false

namespace WikiQuery.Pattern

/-- The progresses behind the next characters as long as these are of a class, the furthest first, and
then those of `passed`. -/
def Progress.runs (c : CharClass) (passed : List Progress) (m : Progress) : List Progress :=
  match _h : m.step? c with
  | some next => next.runs c (m :: passed)
  | none => m :: passed
termination_by m.left
decreasing_by exact left_of_step? _h

/-- The result of `onward` for the first way to match a pattern for which it has one. -/
def firstWay? {α : Type} (whole : Nat) (p : Pattern) (m : Progress)
    (onward : Progress → Option α) : Option α :=
  match p with
  | empty => onward m
  | one c => (m.step? c).bind onward
  | start => if m.left = whole then onward m else none
  | finish => if m.left = 0 then onward m else none
  | seq p q => firstWay? whole p m fun mid => firstWay? whole q mid onward
  | alt p q =>
    match firstWay? whole p m onward with
    | some a => some a
    | none => firstWay? whole q m onward
  | star p =>
    match p.class? with
    | some c => (m.runs c []).findSome? onward
    | none =>
      let more := firstWay? whole p m fun mid =>
        if mid.left < m.left then firstWay? whole (star p) mid onward else none
      match more with
      | some a => some a
      | none => onward m
  | maybe p =>
    match firstWay? whole p m onward with
    | some a => some a
    | none => onward m
  | group index p => firstWay? whole p m fun mid => onward (m.capture index mid)
termination_by (sizeOf p, m.left)

/-- Repetitions of one character are those that lie behind each other. -/
theorem runs_eq_ways (whole : Nat) (c : CharClass) (passed : List Progress) (m : Progress) :
    m.runs c passed = ways whole (star (one c)) m ++ passed := by
  fun_induction Progress.runs c passed m with
  | case1 passed m next h ih =>
    rw [ih, ways_star whole (one c) m, ways, h]
    simp [Progress.left_of_step? h]
  | case2 passed m h =>
    rw [ways_star, ways, h]
    simp

theorem findSome?_flatMap {α β γ : Type} (f : α → List β) (g : β → Option γ) (as : List α) :
    (as.flatMap f).findSome? g = as.findSome? fun a => (f a).findSome? g := by
  induction as with
  | nil => rfl
  | cons a as ih =>
    rw [List.flatMap_cons, List.findSome?_append, List.findSome?_cons, ih]
    cases (f a).findSome? g <;> rfl

/-- One repetition and more, searched for or found in the list. -/
theorem firstMore?_eq_findSome? {α : Type} {whole : Nat} {m : Progress}
    {onward : Progress → Option α} {p : Pattern}
    (ihstar : ∀ mid : Progress, mid.left < m.left →
      firstWay? whole (star p) mid onward = (ways whole (star p) mid).findSome? onward)
    (ih : (firstWay? whole p m fun mid =>
        if _h : mid.left < m.left then firstWay? whole (star p) mid onward else none) =
      (ways whole p m).findSome? fun mid =>
        if _h : mid.left < m.left then firstWay? whole (star p) mid onward else none) :
    (firstWay? whole p m fun mid =>
        if mid.left < m.left then firstWay? whole (star p) mid onward else none) =
      (ways whole p m).findSome? fun mid =>
        (if mid.left < m.left then ways whole (star p) mid else []).findSome? onward := by
  refine ih.trans (congrArg (fun f => (ways whole p m).findSome? f) ?_)
  funext mid
  split
  · next hlt => exact ihstar mid hlt
  · rfl

/-- The search finds the first of all ways from which it goes on. -/
theorem firstWay?_eq_findSome? {α : Type} (whole : Nat) (p : Pattern) (m : Progress)
    (onward : Progress → Option α) :
    firstWay? whole p m onward = (ways whole p m).findSome? onward := by
  fun_induction firstWay? whole p m onward with
  | case1 | case3 | case4 | case5 | case6 => simp_all [ways]
  | case2 m onward c =>
    rw [ways]
    cases m.step? c <;> simp
  | case7 m onward p q ihq ihp =>
    rw [ihp, ways, findSome?_flatMap]
    simp only [ihq]
  | case8 m onward p q a h ih | case13 m onward p a h ih =>
    rw [ways, List.findSome?_append, ← ih, h]
    rfl
  | case9 m onward p q h ihp ihq =>
    rw [ways, List.findSome?_append, ← ihp, ← ihq, h]
    rfl
  | case14 m onward p h ih =>
    rw [ways, List.findSome?_append, ← ih, h]
    simp
  | case10 m onward p c h =>
    cases p with
    | one d =>
      rw [class?, Option.some.injEq] at h
      rw [runs_eq_ways whole, h, List.append_nil]
    | _ => simp [class?] at h
  | case11 m onward p _ more a h ihstar ih =>
    rw [ways_star, List.findSome?_append, findSome?_flatMap, ← firstMore?_eq_findSome? ihstar ih]
    show some a = more.or _
    rw [h]
    rfl
  | case12 m onward p _ more h ihstar ih =>
    rw [ways_star, List.findSome?_append, findSome?_flatMap, ← firstMore?_eq_findSome? ihstar ih]
    show onward m = more.or _
    rw [h]
    simp
  | case15 m onward index p ih =>
    rw [ih, ways, List.findSome?_map]
    rfl

/-- The search alone finds the preferred way. -/
theorem firstWay?_some (whole : Nat) (p : Pattern) (m : Progress) :
    firstWay? whole p m some = (ways whole p m).head? := by
  rw [firstWay?_eq_findSome?]
  cases ways whole p m <;> rfl

/-- The progresses that start at the places of what is left, from the first place on. -/
def Progress.places (m : Progress) : List Progress :=
  m :: match _h : m.next? with
  | some (_, next) => next.places
  | none => []
termination_by m.left
decreasing_by exact left_of_next? _h

/-- The preferred match from the first place on where there is one. Of the places, those that `hopeful`
rules out are passed over. -/
def search? (whole : Nat) (p : Pattern) (hopeful : Array Bool) (m : Progress) : Option Progress :=
  match if hopeful[m.left]? = some true then firstWay? whole p m some else none with
  | some found => some found
  | none =>
    match _h : m.next? with
    | some (_, next) => search? whole p hopeful next
    | none => none
termination_by m.left
decreasing_by exact Progress.left_of_next? _h

/-- The preferred match from the first place of a text on where there is one. -/
def firstMatch? (p : Pattern) (cs : List Char) : Option Progress :=
  let m : Progress := { rest := cs }
  let back := cs.reverse
  let hopeful := prospects back p (List.replicate (m.left + 1) true)
  search? m.left p hopeful.toArray m

/-- What the groups of a pattern capture in a text, in the order of their numbers, if it matches
anywhere. -/
def captures? (p : Pattern) (s : String) : Option (List String) :=
  (firstMatch? p s.toList).map fun found =>
    (List.range p.groupCount).map fun i => String.ofList (found.captured (i + 1))

theorem Progress.within_of_next? {back : List Char} {m next : Progress} {c : Char}
    (hm : m.Within back) (h : m.next? = some (c, next)) : next.Within back := by
  unfold next? at h
  split at h
  · simp at h
  · next hrest =>
    simp only [Option.some.injEq, Prod.mk.injEq] at h
    refine hm.of_suffix ?_
    rw [hrest, ← h.2]
    exact List.suffix_cons _ _

/-- The places that are passed over are those without a way. -/
theorem search?_eq_findSome? {back : List Char} {p : Pattern} {m : Progress} (hm : m.Within back) :
    search? back.length p
        (prospects back p (List.replicate (back.length + 1) true)).toArray m =
      m.places.findSome? fun place => (ways back.length p place).head? := by
  have hplace : (if (prospects back p (List.replicate (back.length + 1) true)).toArray[m.left]? =
        some true then firstWay? back.length p m some else none) =
      (ways back.length p m).head? := by
    split
    · exact firstWay?_some _ _ _
    · next hpassed =>
      cases hways : ways back.length p m with
      | nil => rfl
      | cons mid _ =>
        have hmid : mid ∈ ways back.length p m := hways ▸ List.mem_cons_self
        have hle := (hm.of_suffix (rest_of_mem_ways hmid)).left_le
        refine absurd ?_ hpassed
        rw [List.getElem?_toArray]
        exact prospects_of_mem_ways (List.length_replicate) hm hmid
          (by rw [List.getElem?_replicate, if_pos (Nat.lt_succ_of_le hle)])
  rw [search?, Progress.places, hplace, List.findSome?_cons]
  cases (ways back.length p m).head? with
  | some found => rfl
  | none =>
    dsimp only
    split
    · next next hnext =>
      have := Progress.left_of_next? hnext
      exact search?_eq_findSome? (Progress.within_of_next? hm hnext)
    · rfl
termination_by m.left

/-- The match is the preferred way from the first place that has one. -/
theorem firstMatch?_eq_findSome? (p : Pattern) (cs : List Char) :
    firstMatch? p cs =
      (Progress.places { rest := cs }).findSome? fun place => (ways cs.length p place).head? := by
  have hm : Progress.Within cs.reverse { rest := cs } := List.prefix_refl _
  have h := search?_eq_findSome? (p := p) hm
  rw [List.length_reverse] at h
  exact h

end WikiQuery.Pattern
