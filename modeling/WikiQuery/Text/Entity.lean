import WikiQuery.Number.Digits

/-!
Character references such as `&amp;` and `&#65;`. They are read from the left, once: what a
reference stands for is not read again. An ampersand that opens no reference is called bare.
-/

set_option autoImplicit false

namespace WikiQuery.Text

open Number (unsigned?)

/-- The character with a given number, if there is one. -/
def charOfCode? (code : Nat) : Option Char :=
  if code.isValidChar then some (Char.ofNat code) else none

/-- The character that a reference stands for; its ampersand and semicolon are left out. -/
def referenced? : List Char → Option Char
  | '#' :: 'x' :: cs => (unsigned? 16 cs).bind charOfCode?
  | '#' :: 'X' :: cs => (unsigned? 16 cs).bind charOfCode?
  | '#' :: cs => (unsigned? 10 cs).bind charOfCode?
  | ['a', 'm', 'p'] => some '&'
  | ['l', 't'] => some '<'
  | ['g', 't'] => some '>'
  | ['q', 'u', 'o', 't'] => some '"'
  | ['a', 'p', 'o', 's'] => some '\''
  | ['n', 'b', 's', 'p'] => some '\u00a0'
  | _ => none

/-- The name of a reference and the text behind its semicolon, for the text behind an ampersand. No
name holds another ampersand. -/
def nameBefore? : List Char → Option (List Char × List Char)
  | [] => none
  | c :: cs =>
    if c = ';' then some ([], cs)
    else if c = '&' then none
    else (nameBefore? cs).map fun p => (c :: p.1, p.2)

/-- What a reference stands for and the text behind it, for the text behind an ampersand. -/
def reference? (cs : List Char) : Option (Char × List Char) :=
  match nameBefore? cs with
  | some (name, behind) => (referenced? name).map fun c => (c, behind)
  | none => none

theorem length_nameBefore? {cs name behind : List Char}
    (h : nameBefore? cs = some (name, behind)) : behind.length < cs.length := by
  induction cs generalizing name with
  | nil => simp [nameBefore?] at h
  | cons c cs ih =>
    unfold nameBefore? at h
    split at h
    · simp only [Option.some.injEq, Prod.mk.injEq] at h
      simp [← h.2]
    · split at h
      · simp at h
      · simp only [Option.map_eq_some_iff, Prod.mk.injEq] at h
        obtain ⟨⟨_, _⟩, hp, rfl, rfl⟩ := h
        exact Nat.lt_succ_of_lt (ih hp)

theorem length_reference? {cs behind : List Char} {c : Char}
    (h : reference? cs = some (c, behind)) : behind.length < cs.length := by
  unfold reference? at h
  split at h
  · next hname =>
    simp only [Option.map_eq_some_iff, Prod.mk.injEq] at h
    obtain ⟨_, _, _, rfl⟩ := h
    exact length_nameBefore? hname
  · simp at h

/-- The text with each reference replaced by the character it stands for. -/
def decoded : List Char → List Char
  | [] => []
  | c :: cs =>
    if c = '&' then
      match _h : reference? cs with
      | some (d, behind) => d :: decoded behind
      | none => '&' :: decoded cs
    else c :: decoded cs
termination_by cs => cs.length
decreasing_by
  · simpa using Nat.lt_succ_of_lt (length_reference? _h)
  · simp
  · simp

/-- The text with each reference replaced by the character it stands for. -/
def decodeReferences (s : String) : String :=
  String.ofList (decoded s.toList)

/-- Whether a text opens with a reference. -/
def opensReference : List Char → Bool
  | '&' :: cs => (reference? cs).isSome
  | _ => false

/-- The pieces of a text between its bare ampersands. -/
def bareAmpersandPieces : List Char → List (List Char)
  | [] => [[]]
  | c :: cs =>
    if c = '&' ∧ (reference? cs).isNone then [] :: bareAmpersandPieces cs
    else
      match bareAmpersandPieces cs with
      | [] => [[c]]
      | p :: ps => (c :: p) :: ps

end WikiQuery.Text
