import Mathlib.Tactic.SplitIfs
import WikiQuery.Reading

/-!
Whether a text is taken does not depend on the query that it is read into, and neither does the
conflict that it brings. Only the rules for kept lists look at the query for that.
-/

set_option autoImplicit false

namespace WikiQuery.Reading

variable {settings : Settings} {host : Host} {p : Parameter} {s t : Specification} {text : String}

/-- What a reading says about a text, beside the values that it writes: whether it takes it, and
then whether it brings a conflict. -/
def verdict (reading : Option Change) : Option Bool :=
  reading.map (·.conflicts)

theorem isSome_eq_of_verdict {one other : Option Change} (h : verdict one = verdict other) :
    one.isSome = other.isSome := by
  cases one <;> cases other <;> simp_all [verdict]

theorem any_eq_of_verdict {one other : Option Change} (conflicts : Bool)
    (h : verdict one = verdict other) :
    (one.any fun change => change.conflicts || conflicts) =
      other.any fun change => change.conflicts || conflicts := by
  cases one <;> cases other <;> simp_all [verdict]

private theorem verdict_some {one other : Change} (h : one.conflicts = other.conflicts) :
    verdict (some one) = verdict (some other) :=
  congrArg some h

private theorem verdict_map {α : Type} {value : Option α} {one other : α → Change}
    (h : ∀ a, (one a).conflicts = (other a).conflicts) :
    verdict (value.map one) = verdict (value.map other) := by
  cases value with
  | none => rfl
  | some a => exact congrArg some (h a)

private theorem verdict_ite {c : Prop} [Decidable c] {a b a' b' : Option Change}
    (h : verdict a = verdict a') (h' : verdict b = verdict b') :
    verdict (if c then a else b) = verdict (if c then a' else b') := by
  split
  · exact h
  · exact h'

theorem verdict_handled? {handler : Handler} (h : handler ≠ .allowCachedResults) :
    verdict (handled? settings host p s text handler) =
      verdict (handled? settings host p t text handler) := by
  cases handler with
  | allowCachedResults => exact absurd rfl h
  | category =>
    simp only [handled?, category]
    exact verdict_ite rfl (verdict_ite rfl (verdict_some rfl))
  | titlePattern | flagSet =>
    simp only [handled?, titlePattern, flagSet]
    exact verdict_ite rfl (verdict_some rfl)
  | notCategory | title | notTitle | inNamespace => exact verdict_map fun _ => rfl
  | categoryPattern | table => exact verdict_some rfl
  | _ => rfl

private theorem isSome_textualValue? (host : Host) (p : Parameter) (s t : Specification)
    (value : String) :
    (textualValue? host p s value).isSome = (textualValue? host p t value).isSome := by
  simp only [textualValue?]
  cases p.pageNames with
  | none => rfl
  | some kind =>
    cases listed : pageList? host kind value with
    | none => simp only [listed]
    | some pages => cases pages <;> simp only [listed, Option.isSome_some]

private theorem isSome_staged? (host : Host) (p : Parameter) (s t : Specification) (text : String) :
    (staged? host p s text).isSome = (staged? host p t text).isSome := by
  have textual := isSome_textualValue? host p s t
  simp only [staged?]
  split_ifs
  · rfl
  · rfl
  · rfl
  · cases host.normalizeTimestamp (prepared p text) with
    | none => rfl
    | some time => exact textual time
  · exact textual _

/-- Whether a text is taken, and with which conflict, is the same for every query. -/
theorem verdict_change? (h : p.handler ≠ some .allowCachedResults) :
    verdict (change? settings host p s text) = verdict (change? settings host p t text) := by
  unfold change?
  cases rules : p.handler with
  | some handler => exact verdict_handled? fun same => h (rules.trans (congrArg some same))
  | none =>
    have taken := isSome_staged? host p s t text
    cases here : staged? host p s text <;> cases there : staged? host p t text <;>
      simp_all [verdict]

/-- The rules for kept lists bring no conflict. -/
theorem conflicts_allowCachedResults {change : Change} (h : p.handler = some .allowCachedResults)
    (taken : change? settings host p s text = some change) : change.conflicts = false := by
  simp only [change?, h, handled?, allowCachedResults] at taken
  split_ifs at taken
  · exact (Option.some.inj taken) ▸ rfl
  · exact (Option.some.inj taken) ▸ rfl
  · obtain ⟨_, -, rfl⟩ := Option.map_eq_some_iff.mp taken
    rfl

end WikiQuery.Reading
