import Mathlib.Data.List.TakeWhile
import WikiQuery.Pattern.Search
import WikiQuery.Text.Split

/-!
A pattern of two runs with a separator between them that may be missing. A text without the separator
could be divided between the runs anywhere, but the first run takes all of it. A text with the separator
can be divided there only. So each text that is matched is divided in one way, and the texts that are
matched are those that hold nothing else than the two runs are made of, and the separator once at most.
-/

set_option autoImplicit false

namespace WikiQuery

/-- Whether a text holds nothing but characters of a class, and one separator at most. -/
def CharClass.Spans (c : CharClass) (sep : Char) (cs : List Char) : Prop :=
  (∀ d ∈ cs, d = sep ∨ c.contains d = true) ∧ cs.count sep ≤ 1

instance {c : CharClass} {sep : Char} {cs : List Char} : Decidable (c.Spans sep cs) :=
  decidable_of_iff ((cs.all fun d => d == sep || c.contains d) = true ∧ cs.count sep ≤ 1)
    (by simp [CharClass.Spans])

/-- How a text is divided into two runs of a class: at the separator, or at its end. -/
inductive CharClass.Divides (c : CharClass) (sep : Char) :
    List Char → List Char → List Char → Prop
  | alone {front : List Char} (run : ∀ d ∈ front, c.contains d = true) : c.Divides sep front front []
  | parted {front back : List Char} (first : ∀ d ∈ front, c.contains d = true)
      (second : ∀ d ∈ back, c.contains d = true) : c.Divides sep (front ++ sep :: back) front back

namespace Pattern

/-- At the start of a text all of it is left. -/
theorem Progress.left_start (cs : List Char) : Progress.left { rest := cs } = cs.length :=
  rfl

/-- The progress with some text left. -/
def Progress.ofRest (cs : List Char) (captures : List Capture) : Progress where
  rest := cs
  left := cs.length
  captures := captures
  left_eq := left_start cs

/-- Two runs of a class with a separator between them that may be missing, as the whole of a text. -/
def twoRuns (c : CharClass) (sep : Char) : Pattern :=
  .seq (.seq (.seq (.seq .start (.group 1 (.star (.one c)))) (.maybe (.one (.exactly sep))))
    (.group 2 (.star (.one c)))) .finish

/-- What the second run is, if the first one stops in front of a text. -/
def secondRun? (c : CharClass) (sep : Char) (cs : List Char) : Option (List Char) :=
  if cs.all c.contains then some cs
  else if cs.head? = some sep ∧ cs.tail.all c.contains = true then some cs.tail
  else none

section Search

variable {α : Type} {whole : Nat} {c : CharClass} {sep d : Char} {cs : List Char}
  {captures : List Capture} {onward : Progress → Option α}

theorem Progress.step?_ofRest_cons : (ofRest (d :: cs) captures).step? c =
    if c.contains d then some (ofRest cs captures) else none :=
  rfl

theorem Progress.step?_ofRest_nil : (ofRest [] captures).step? c = none :=
  rfl

/-- A run goes as far as it can, if stopping earlier is of no use where that is of none. -/
theorem firstWay?_run
    (greedy : ∀ cs, onward (.ofRest (cs.dropWhile c.contains) captures) = none →
      onward (.ofRest cs captures) = none) (cs : List Char) :
    firstWay? whole (.star (.one c)) (.ofRest cs captures) onward =
      onward (.ofRest (cs.dropWhile c.contains) captures) := by
  rw [firstWay?_eq_findSome?]
  induction cs with
  | nil =>
    rw [ways_star, ways, Progress.step?_ofRest_nil]
    simp
  | cons d cs ih =>
    rw [ways_star, ways, Progress.step?_ofRest_cons]
    by_cases member : c.contains d = true
    · have later := greedy (d :: cs)
      rw [List.dropWhile_cons_of_pos member] at later ⊢
      have shorter : (Progress.ofRest cs captures).left < (Progress.ofRest (d :: cs) captures).left :=
        Nat.lt_succ_self _
      rw [if_pos member, Option.toList_some, List.flatMap_cons, List.flatMap_nil, List.append_nil,
        if_pos shorter, List.findSome?_append, ih]
      cases found : onward (.ofRest (cs.dropWhile c.contains) captures) with
      | some a => rfl
      | none => simp [later found]
    · rw [if_neg member, List.dropWhile_cons_of_neg member]
      simp

/-- The second run has to take in all that is left. -/
theorem firstWay?_second (cs : List Char) :
    (firstWay? whole (.group 2 (.star (.one c))) (.ofRest cs captures) fun mid =>
        firstWay? whole .finish mid some) =
      if cs.all c.contains then some (.ofRest [] (⟨2, cs, cs.length⟩ :: captures)) else none := by
  have greedy : ∀ rest : List Char,
      firstWay? whole .finish (.capture 2 (.ofRest cs captures)
        (.ofRest (rest.dropWhile c.contains) captures)) some = none →
      firstWay? whole .finish (.capture 2 (.ofRest cs captures) (.ofRest rest captures)) some =
        none := by
    intro rest
    cases rest with
    | nil => exact id
    | cons d rest => simp [firstWay?, Progress.capture, Progress.ofRest]
  rw [firstWay?, firstWay?_run greedy]
  cases left : cs.dropWhile c.contains with
  | nil =>
    have all : cs.all c.contains = true := List.all_eq_true.mpr (List.dropWhile_eq_nil_iff.mp left)
    simp [firstWay?, Progress.capture, Progress.ofRest, all]
  | cons d rest =>
    have others : cs.all c.contains = false := by
      refine Bool.eq_false_iff.mpr fun all => ?_
      rw [List.dropWhile_eq_nil_iff.mpr (List.all_eq_true.mp all)] at left
      cases left
    simp [firstWay?, Progress.capture, Progress.ofRest, others]

/-- Behind the first run there is a separator and then the second run, or the second run at once. -/
theorem firstWay?_maybe_second (other : c.contains sep = false) (cs : List Char) :
    (firstWay? whole (.maybe (.one (.exactly sep))) (.ofRest cs captures) fun mid =>
        firstWay? whole (.group 2 (.star (.one c))) mid fun mid =>
          firstWay? whole .finish mid some) =
      (secondRun? c sep cs).map fun back =>
        .ofRest [] (⟨2, back, back.length⟩ :: captures) := by
  rw [firstWay?, firstWay?, firstWay?_second]
  unfold secondRun?
  cases cs with
  | nil => simp [Progress.step?_ofRest_nil]
  | cons d cs =>
    rw [Progress.step?_ofRest_cons]
    by_cases here : d = sep
    · subst here
      have itself : (CharClass.exactly d).contains d = true := by simp [CharClass.contains]
      rw [if_pos itself, Option.bind_some, firstWay?_second]
      by_cases rest : cs.all c.contains = true
      · simp [other, rest]
      · simp [other, rest]
    · have apart : (CharClass.exactly sep).contains d = false := by
        simpa [CharClass.contains] using here
      simp only [apart, Option.bind_none, List.head?_cons, Option.some.injEq, here, false_and,
        if_false, Bool.false_eq_true]
      split
      · rfl
      · rfl

/-- To stop earlier is of no use for the first run. -/
theorem secondRun?_eq_none_of_dropWhile (other : c.contains sep = false)
    (h : secondRun? c sep (cs.dropWhile c.contains) = none) : secondRun? c sep cs = none := by
  induction cs with
  | nil => exact h
  | cons d cs ih =>
    by_cases member : c.contains d = true
    · rw [List.dropWhile_cons_of_pos member] at h
      have later := ih h
      have ne : d ≠ sep := by
        rintro rfl
        rw [member] at other
        cases other
      unfold secondRun? at later ⊢
      split at later
      · cases later
      · rename_i others
        simp [others, member, ne]
    · rwa [List.dropWhile_cons_of_neg member] at h

/-- The first run is as long as it can be, and the second is what is left behind the separator. -/
theorem firstWay?_twoRuns (other : c.contains sep = false) (cs : List Char) :
    firstWay? cs.length (twoRuns c sep) (.ofRest cs []) some =
      (secondRun? c sep (cs.dropWhile c.contains)).map fun back => .ofRest []
        [⟨2, back, back.length⟩, ⟨1, cs, cs.length - (cs.dropWhile c.contains).length⟩] := by
  have stops : ∀ rest : List Char,
      (firstWay? cs.length (.maybe (.one (.exactly sep)))
        (.capture 1 (.ofRest cs []) (.ofRest rest [])) fun mid =>
          firstWay? cs.length (.group 2 (.star (.one c))) mid fun mid =>
            firstWay? cs.length .finish mid some) =
      (secondRun? c sep rest).map fun back => .ofRest []
        [⟨2, back, back.length⟩, ⟨1, cs, cs.length - rest.length⟩] :=
    fun rest => firstWay?_maybe_second other rest
  have start : (Progress.ofRest cs []).left = cs.length := rfl
  rw [twoRuns, firstWay?, firstWay?, firstWay?, firstWay?, firstWay?, if_pos start, firstWay?,
    firstWay?_run, stops]
  intro rest none
  rw [stops, Option.map_eq_none_iff] at none ⊢
  exact secondRun?_eq_none_of_dropWhile other none

theorem Progress.left_lt_of_mem_places {m n : Progress} (h : n ∈ m.places) : n = m ∨ n.left < m.left := by
  rw [places] at h
  rcases List.mem_cons.mp h with rfl | later
  · exact .inl rfl
  · split at later
    · rename_i next found
      have shorter := left_of_next? found
      rcases left_lt_of_mem_places later with rfl | further
      · exact .inr shorter
      · exact .inr (further.trans shorter)
    · cases later
termination_by m.left

/-- A match can only start where the text does. -/
theorem firstMatch?_twoRuns (other : c.contains sep = false) (cs : List Char) :
    firstMatch? (twoRuns c sep) cs =
      (secondRun? c sep (cs.dropWhile c.contains)).map fun back => .ofRest []
        [⟨2, back, back.length⟩, ⟨1, cs, cs.length - (cs.dropWhile c.contains).length⟩] := by
  rw [firstMatch?_eq_findSome?, ← firstWay?_twoRuns other, firstWay?_some]
  have inner : ∀ n : Progress, n.left < cs.length → ways cs.length (twoRuns c sep) n = [] := by
    intro n shorter
    have blocked : ways cs.length .start n = [] := by rw [ways, if_neg (Nat.ne_of_lt shorter)]
    rw [twoRuns, ways, ways, ways, ways, blocked]
    rfl
  have later : ∀ n ∈ (Progress.ofRest cs []).places,
      (ways cs.length (twoRuns c sep) (.ofRest cs [])).head? = none →
        (ways cs.length (twoRuns c sep) n).head? = none := by
    intro n member none
    rcases Progress.left_lt_of_mem_places member with rfl | shorter
    · exact none
    · rw [inner n shorter, List.head?_nil]
  show (Progress.ofRest cs []).places.findSome? _ = _
  cases first : (ways cs.length (twoRuns c sep) (.ofRest cs [])).head? with
  | none => exact List.findSome?_eq_none_iff.mpr fun n member => later n member first
  | some found => rw [Progress.places, List.findSome?_cons, first]

/-- The runs that a text is divided into. -/
theorem captures?_twoRuns (other : c.contains sep = false) (s : String) :
    (twoRuns c sep).captures? s =
      (secondRun? c sep (s.toList.dropWhile c.contains)).map fun back =>
        [String.ofList (s.toList.takeWhile c.contains), String.ofList back] := by
  have front : s.toList.take (s.toList.length - (s.toList.dropWhile c.contains).length) =
      s.toList.takeWhile c.contains := by
    have parts := List.takeWhile_append_dropWhile (p := c.contains) (l := s.toList)
    have length := congrArg List.length parts
    rw [List.length_append] at length
    rw [← length, Nat.add_sub_cancel]
    calc s.toList.take (s.toList.takeWhile c.contains).length
        = (s.toList.takeWhile c.contains ++ s.toList.dropWhile c.contains).take
            (s.toList.takeWhile c.contains).length := by rw [parts]
      _ = s.toList.takeWhile c.contains := List.take_left
  rw [captures?, firstMatch?_twoRuns other, Option.map_map]
  congr 1
  funext back
  simp [twoRuns, groupCount, List.range_succ, Progress.captured, Progress.ofRest, Capture.text, front]

end Search

section Division

variable {c : CharClass} {sep : Char} {cs front back : List Char}

theorem not_mem_of_run (other : c.contains sep = false) (run : ∀ d ∈ front, c.contains d = true) :
    sep ∉ front := by
  intro member
  rw [run sep member] at other
  cases other

/-- A text is divided at its first separator, if it has one. -/
theorem cut?_of_divides (other : c.contains sep = false) (h : c.Divides sep cs front back) :
    (front, back) = (Text.cut? sep cs).getD (cs, []) := by
  cases h with
  | alone run => rw [Text.cut?_eq_none_iff.mpr (not_mem_of_run other run), Option.getD_none]
  | parted first second => rw [Text.cut?_append (not_mem_of_run other first), Option.getD_some]

theorem spans_of_divides (other : c.contains sep = false) (h : c.Divides sep cs front back) :
    c.Spans sep cs := by
  cases h with
  | alone run =>
    refine ⟨fun d member => .inr (run d member), ?_⟩
    rw [List.count_eq_zero_of_not_mem (not_mem_of_run other run)]
    exact Nat.zero_le 1
  | parted first second =>
    refine ⟨fun d member => ?_, ?_⟩
    · rcases List.mem_append.mp member with member | member
      · exact .inr (first d member)
      · exact (List.mem_cons.mp member).imp_right (second d)
    · rw [List.count_append, List.count_cons_self,
        List.count_eq_zero_of_not_mem (not_mem_of_run other first),
        List.count_eq_zero_of_not_mem (not_mem_of_run other second)]

theorem exists_divides_of_spans (h : c.Spans sep cs) : ∃ front back, c.Divides sep cs front back := by
  obtain ⟨known, once⟩ := h
  have run : ∀ part : List Char, (∀ d ∈ part, d ∈ cs) → sep ∉ part →
      ∀ d ∈ part, c.contains d = true := by
    intro part sub absent d member
    rcases known d (sub d member) with rfl | belongs
    · exact absurd member absent
    · exact belongs
  cases parts : Text.cut? sep cs with
  | none =>
    exact ⟨cs, [], .alone (run cs (fun _ => id) (Text.cut?_eq_none_iff.mp parts))⟩
  | some cut =>
    obtain ⟨front, back⟩ := cut
    obtain ⟨rfl, first⟩ := Text.eq_of_cut?_eq_some parts
    have second : sep ∉ back := by
      rw [List.count_append, List.count_cons_self] at once
      exact List.count_eq_zero.mp (by omega)
    exact ⟨front, back, .parted (run front (by simp_all) first) (run back (by simp_all) second)⟩

theorem secondRun?_of_divides (other : c.contains sep = false) (h : c.Divides sep cs front back) :
    cs.takeWhile c.contains = front ∧ secondRun? c sep (cs.dropWhile c.contains) = some back := by
  cases h with
  | alone run =>
    rw [List.takeWhile_eq_self_iff.mpr run, List.dropWhile_eq_nil_iff.mpr run]
    exact ⟨rfl, rfl⟩
  | parted first second =>
    have stop : ¬c.contains sep = true := Bool.eq_false_iff.mp other
    rw [List.takeWhile_append_of_pos first, List.dropWhile_append_of_pos first,
      List.takeWhile_cons_of_neg stop, List.dropWhile_cons_of_neg stop, List.append_nil]
    have all : back.all c.contains = true := List.all_eq_true.mpr second
    exact ⟨rfl, by simp [secondRun?, other, all]⟩

theorem divides_of_secondRun? (h : secondRun? c sep (cs.dropWhile c.contains) = some back) :
    c.Divides sep cs (cs.takeWhile c.contains) back := by
  have run : ∀ d ∈ cs.takeWhile c.contains, c.contains d = true := fun d => List.mem_takeWhile_imp
  have parts := List.takeWhile_append_dropWhile (p := c.contains) (l := cs)
  cases rest : cs.dropWhile c.contains with
  | nil =>
    rw [rest] at h parts
    obtain rfl := Option.some.inj h
    rw [List.append_nil] at parts
    have alone : c.Divides sep _ _ [] := .alone run
    rwa [parts] at alone ⊢
  | cons d tail =>
    -- The first run stops in front of a character of another kind, so that has to be the separator.
    have stop : c.contains d = false := by
      have first := List.head?_dropWhile_not c.contains cs
      rwa [rest] at first
    rw [rest] at h parts
    simp only [secondRun?, List.all_cons, stop, Bool.false_and, Bool.false_eq_true, if_false,
      List.head?_cons, Option.some.injEq, List.tail_cons, Option.ite_none_right_eq_some] at h
    obtain ⟨⟨rfl, all⟩, rfl⟩ := h
    have parted : c.Divides d _ _ tail := .parted run (List.all_eq_true.mp all)
    rwa [parts] at parted

/-- What the pattern captures is how the text is divided. -/
theorem captures?_twoRuns_eq_some_iff (other : c.contains sep = false) {s : String}
    {groups : List String} :
    (twoRuns c sep).captures? s = some groups ↔
      ∃ front back, c.Divides sep s.toList front back ∧
        groups = [String.ofList front, String.ofList back] := by
  rw [captures?_twoRuns other, Option.map_eq_some_iff]
  constructor
  · rintro ⟨back, found, rfl⟩
    exact ⟨_, back, divides_of_secondRun? found, rfl⟩
  · rintro ⟨front, back, divides, rfl⟩
    obtain ⟨first, second⟩ := secondRun?_of_divides other divides
    exact ⟨back, second, by rw [first]⟩

end Division

end Pattern

end WikiQuery
