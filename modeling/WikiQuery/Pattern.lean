import WikiQuery.Text.Newest
import WikiQuery.Text.WordCharacter

/-!
Patterns that a text is matched against, and the parts of the text that their groups capture.

A pattern matches in as many ways as there are choices to make: how often to repeat, which branch to
take. `Pattern.ways` lists them all, the preferred one first: the left branch before the right one,
and one repetition more before one less.
-/

set_option autoImplicit false

namespace WikiQuery

/-- The single characters that a place in a pattern admits. -/
inductive CharClass
  | exactly (c : Char)
  /-- Any character but a line break. -/
  | any
  | digit
  | word
  deriving DecidableEq, Repr

/-- Whether a class has a character. The classes of digits and of words are those of Unicode 16.0, which
does not know the newest characters. -/
def CharClass.contains : CharClass → Char → Bool
  | .exactly d, c => c == d
  | .any, c => c != '\n'
  | .digit, c => Text.decimalDigits.contains c && !Text.newest.contains c
  | .word, c => Text.isWordChar c && !Text.newest.contains c

/-- A pattern. -/
inductive Pattern
  /-- Nothing. -/
  | empty
  /-- One character. -/
  | one (c : CharClass)
  /-- The start of the text. -/
  | start
  /-- The end of the text. -/
  | finish
  | seq (first second : Pattern)
  | alt (left right : Pattern)
  /-- Any number of repetitions, rather more than fewer. -/
  | star (p : Pattern)
  /-- One time or none, rather one. -/
  | maybe (p : Pattern)
  /-- What the inner pattern matches is captured under a number. -/
  | group (index : Nat) (p : Pattern)
  deriving DecidableEq, Repr

namespace Pattern

/-- A part of the text: the text from its start on, and the number of its characters. -/
structure Capture where
  index : Nat
  fromStart : List Char
  length : Nat
  deriving DecidableEq, Repr

/-- The captured text. -/
def Capture.text (c : Capture) : List Char :=
  c.fromStart.take c.length

/-- How far a match has come: the text that is left and its length, and what was captured, the latest
first. -/
structure Progress where
  rest : List Char
  left : Nat := rest.length
  captures : List Capture := []
  left_eq : left = rest.length := by rfl

namespace Progress

/-- The next character, and the progress behind it. -/
def next? (m : Progress) : Option (Char × Progress) :=
  match h : m.rest with
  | [] => none
  | c :: rest => some (c, ⟨rest, m.left - 1, m.captures, by rw [m.left_eq, h]; rfl⟩)

/-- The progress behind the next character, if that one is of a class. -/
def step? (m : Progress) (c : CharClass) : Option Progress :=
  match m.next? with
  | some (d, next) => if c.contains d then some next else none
  | none => none

theorem left_of_next? {m next : Progress} {c : Char} (h : m.next? = some (c, next)) :
    next.left < m.left := by
  unfold next? at h
  split at h
  · simp at h
  · next hrest =>
    simp only [Option.some.injEq, Prod.mk.injEq] at h
    have := m.left_eq
    rw [hrest, List.length_cons] at this
    rw [← h.2]
    show m.left - 1 < m.left
    omega

theorem left_of_step? {m next : Progress} {c : CharClass} (h : m.step? c = some next) :
    next.left < m.left := by
  unfold step? at h
  split at h
  · next hnext =>
    split at h
    · rw [← Option.some.inj h]
      exact left_of_next? hnext
    · simp at h
  · simp at h

/-- The progress when the text behind `m` up to `mid` is captured under a number. -/
def capture (index : Nat) (m mid : Progress) : Progress :=
  { mid with captures := ⟨index, m.rest, m.left - mid.left⟩ :: mid.captures }

/-- The text that a group captured last; empty if it captured none. -/
def captured (m : Progress) (index : Nat) : List Char :=
  match m.captures.find? (·.index == index) with
  | some c => c.text
  | none => []

end Progress

/-- All ways to match a pattern from some progress on, the preferred one first; `whole` is the
length of the whole text. A repetition that takes in nothing is not repeated. -/
def ways (whole : Nat) (p : Pattern) (m : Progress) : List Progress :=
  match p with
  | empty => [m]
  | one c => (m.step? c).toList
  | start => if m.left = whole then [m] else []
  | finish => if m.left = 0 then [m] else []
  | seq p q => (ways whole p m).flatMap fun mid => ways whole q mid
  | alt p q => ways whole p m ++ ways whole q m
  | star p =>
    ((ways whole p m).flatMap fun mid =>
      if mid.left < m.left then ways whole (star p) mid else []) ++ [m]
  | maybe p => ways whole p m ++ [m]
  | group index p => (ways whole p m).map (m.capture index)
termination_by (sizeOf p, m.left)

theorem ways_star (whole : Nat) (p : Pattern) (m : Progress) :
    ways whole (star p) m =
      ((ways whole p m).flatMap fun mid =>
        if mid.left < m.left then ways whole (star p) mid else []) ++ [m] := by
  rw [ways]

/-- The number of groups of a pattern. -/
def groupCount : Pattern → Nat
  | empty | one _ | start | finish => 0
  | seq p q | alt p q => max p.groupCount q.groupCount
  | star p | maybe p => p.groupCount
  | group index p => max index p.groupCount

end Pattern

end WikiQuery
