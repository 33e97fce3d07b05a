import WikiQuery.Proofs.Step

/-!
Scrolling through a list. Where it is turned on, the request says from which title to which the list
goes, in which direction, and how many pages it has. What the request says is written, and what it does
not say stays as it was. The number of pages is read from the request as the parameter for it reads it.
-/

set_option autoImplicit false

namespace WikiQuery

namespace Specification

/-- What is offered for a key, and nothing else that is offered, is written to it. -/
theorem value?_write_offers {s : Specification} {offers : List (String × Option Value)} {key : String}
    {offer : Option Value} (nodup : (offers.map (·.1)).Nodup) (member : (key, offer) ∈ offers) :
    (s.write (offers.filterMap fun o => o.2.map (o.1, ·))).value? key = offer.or (s.value? key) := by
  induction offers generalizing s with
  | nil => cases member
  | cons first offers ih =>
    obtain ⟨fresh, nodup⟩ := List.nodup_cons.mp nodup
    rw [List.filterMap_cons]
    rcases List.mem_cons.mp member with rfl | later
    · have apart : ∀ w ∈ offers.filterMap fun o => o.2.map (o.1, ·), w.1 ≠ key := by
        intro w written same
        obtain ⟨o, listed, made⟩ := List.mem_filterMap.mp written
        obtain ⟨value, -, rfl⟩ := Option.map_eq_some_iff.mp made
        exact fresh (List.mem_map.mpr ⟨o, listed, same⟩)
      cases offer with
      | none => exact value?_write_of_forall_ne apart
      | some value =>
        rw [Option.map_some, write_cons, value?_write_of_forall_ne apart, value?_write_singleton,
          if_pos rfl, Option.some_or]
    · cases offered : first.2 with
      | none => exact ih nodup later
      | some value =>
        have other : first.1 ≠ key := fun same =>
          fresh (List.mem_map.mpr ⟨(key, offer), later, same.symm⟩)
        rw [Option.map_some, write_cons, ih nodup later, value?_write_singleton, if_neg other]

end Specification

namespace Reading

variable {settings : Settings} {host : Host} {text : String} {n : Int}

/-- What the request offers for each key when a list is scrolled. -/
def scrollOffers (settings : Settings) (host : Host) : List (String × Option Value) :=
  [("titlegt", (lowerBound? host).map .text),
    ("titlelt", (requested? host "DPL_toTitle").map fun title => .text (boundKey title)),
    ("scrolldir", (requested? host "DPL_scrollDir").map fun word =>
      .text (Text.lower (Text.trim word))),
    ("count", (resultCount? settings (host.requestValue "DPL_count" "")).map .int)]

theorem scrollWrites_eq (settings : Settings) (host : Host) :
    scrollWrites settings host =
      (scrollOffers settings host).filterMap fun o => o.2.map (o.1, ·) := by
  unfold scrollWrites scrollOffers
  cases lowerBound? host <;> cases requested? host "DPL_toTitle" <;>
    cases requested? host "DPL_scrollDir" <;>
    cases resultCount? settings (host.requestValue "DPL_count" "") <;> rfl

theorem resultCount?_eq_some_iff :
    resultCount? settings text = some n ↔
      ∃ asked : Int, Number.coerceInteger text none = some asked ∧ 0 < asked ∧
        n = settings.clampResults asked := by
  simp only [resultCount?, Option.map_eq_some_iff, Option.filter_eq_some_iff, decide_eq_true_eq,
    and_assoc, eq_comm (b := n)]

end Reading

namespace Engine

variable {e : Engine} {text : String}

theorem lookup_scroll (standard : e.registry = .standard) (rich : 1 ≤ e.settings.richness) :
    ∃ p, e.lookup "scroll" = .ok p ∧ ∀ spec text,
      Reading.change? e.settings e.host p spec text = Reading.scroll e.settings e.host text := by
  have known : e.registry.find? "scroll" =
      some { name := "scroll", richness := 1, handler := some .scroll, isBoolean := true } := by
    rw [standard]
    decide +kernel
  have looked := lookup_of_handler (by decide) known rfl rich rfl
  exact ⟨_, looked⟩

theorem lookup_count (standard : e.registry = .standard) :
    ∃ p, e.lookup "count" = .ok p ∧ p.name = "count" ∧ ∀ spec text,
      Reading.change? e.settings e.host p spec text = Reading.count e.settings text := by
  have known : ∃ p, Registry.standard.find? "count" = some p ∧ p.handler = some .count ∧
      p.richness = 0 ∧ p.permission = none :=
    ⟨_, rfl, rfl, rfl, rfl⟩
  obtain ⟨p, found, rules, level, free⟩ := known
  obtain ⟨looked, reads⟩ :=
    lookup_of_handler (e := e) (by decide) (standard ▸ found) rules (level ▸ Nat.zero_le _) free
  exact ⟨p, looked, name_of_lookup looked, reads⟩

/-- Scrolling that is turned on is taken, and each key holds what the request offers for it, or what it
held before. -/
theorem process_scroll (standard : e.registry = .standard) (rich : 1 ≤ e.settings.richness)
    (on : Text.truth? text = some true) (s : Session) :
    (e.process s "scroll" text).2 = none ∧
      ∀ key offer, (key, offer) ∈ Reading.scrollOffers e.settings e.host →
        (e.process s "scroll" text).1.spec.value? key = offer.or (s.spec.value? key) := by
  obtain ⟨p, found, reads⟩ := lookup_scroll standard rich
  have taken : Reading.change? e.settings e.host p s.spec text = some
      { writes := ("scroll", .bool true) :: Reading.scrollWrites e.settings e.host } := by
    rw [reads, Reading.scroll, on]
    rfl
  rw [process_of_accepted found taken]
  refine ⟨rfl, fun key offer member => ?_⟩
  have nodup : ((Reading.scrollOffers e.settings e.host).map (·.1)).Nodup := by
    simp [Reading.scrollOffers]
  have other : "scroll" ≠ key := by
    rintro rfl
    simp [Reading.scrollOffers] at member
  rw [Session.spec_withVerbosity, Specification.value?_commit, Specification.write_cons,
    Reading.scrollWrites_eq, Specification.value?_write_offers nodup member,
    Specification.value?_write_singleton, if_neg other, Specification.value?_mark]

theorem process_count (standard : e.registry = .standard) (s : Session) (text : String) :
    (e.process s "count" text).2 =
        (if (Reading.resultCount? e.settings text).isSome then none
          else some (.validation "count" text)) ∧
      (e.process s "count" text).1.spec.value? "count" =
        ((Reading.resultCount? e.settings text).map .int).or (s.spec.value? "count") := by
  obtain ⟨p, found, named, reads⟩ := lookup_count standard
  cases read : Reading.resultCount? e.settings text with
  | none =>
    have refused : Reading.change? e.settings e.host p s.spec text = none := by
      rw [reads, Reading.count, read]
      rfl
    rw [process_of_refused found refused, named]
    exact ⟨rfl, rfl⟩
  | some n =>
    have taken : Reading.change? e.settings e.host p s.spec text =
        some { writes := [("count", .int n)] } := by
      rw [reads, Reading.count, read]
      rfl
    rw [process_of_accepted found taken]
    exact ⟨rfl, Specification.value?_write_singleton _ _ _⟩

/-- The number of pages after scrolling is turned on is the one that the parameter for it leaves, given
what the request has for it. It is taken from the request if that parameter takes it, and the old one is
kept, whatever it is, exactly if that parameter refuses it. -/
theorem count_scroll (standard : e.registry = .standard) (rich : 1 ≤ e.settings.richness)
    (on : Text.truth? text = some true) (s : Session) :
    let asked := e.host.requestValue "DPL_count" ""
    let scrolled := e.process s "scroll" text
    let counted := e.process s "count" asked
    scrolled.2 = none ∧
      scrolled.1.spec.value? "count" = counted.1.spec.value? "count" ∧
      (counted.2 = none → ∃ n, Number.coerceInteger asked none = some n ∧ 0 < n ∧
        scrolled.1.spec.value? "count" = some (.int (e.settings.clampResults n))) ∧
      (counted.2 ≠ none ↔ ∀ t : Session,
        (e.process t "scroll" text).1.spec.value? "count" = t.spec.value? "count") := by
  intro asked scrolled counted
  have offered : ("count", (Reading.resultCount? e.settings asked).map Value.int) ∈
      Reading.scrollOffers e.settings e.host := by simp [Reading.scrollOffers, asked]
  have stored : ∀ t : Session, (e.process t "scroll" text).1.spec.value? "count" =
      ((Reading.resultCount? e.settings asked).map .int).or (t.spec.value? "count") :=
    fun t => (process_scroll standard rich on t).2 _ _ offered
  obtain ⟨answer, left⟩ := process_count standard s asked
  refine ⟨(process_scroll standard rich on s).1, (stored s).trans left.symm, ?_, ?_⟩
  · intro taken
    rw [answer] at taken
    cases read : Reading.resultCount? e.settings asked with
    | none => simp [read] at taken
    | some m =>
      obtain ⟨n, given, positive, rfl⟩ := Reading.resultCount?_eq_some_iff.mp read
      refine ⟨n, given, positive, (stored s).trans ?_⟩
      rw [read]
      rfl
  · rw [answer]
    cases read : Reading.resultCount? e.settings asked with
    | none => simp [stored, read]
    | some n =>
      -- A query without a number of pages shows that one is written.
      refine iff_of_false (by simp) fun kept => ?_
      have nothing := kept ⟨{}, none⟩
      rw [stored, read] at nothing
      cases nothing

theorem count_scroll_ceiling :
    let site : Site := { request := Std.ExtTreeMap.ofList [("DPL_count", " 9e1 ")] compare }
    let other : Site := { request := Std.ExtTreeMap.ofList [("DPL_count", "-0.5")] compare }
    let e : Engine := ⟨.standard, { maxResults := 50 }, site.host⟩
    let e' : Engine := ⟨.standard, { maxResults := 50 }, other.host⟩
    let s := (e.process e.start "count" "20").1
    Text.truth? " Yes" = some true ∧
      (e.process s "scroll" " Yes").1.spec.value? "count" = some (.int 50) ∧
      (e'.process s "scroll" " Yes").1.spec.value? "count" = s.spec.value? "count" := by
  intro site other e e' s
  have on : Text.truth? " Yes" = some true := by decide
  have taken : (e.process s "count" " 9e1 ").2 = none := by decide +kernel
  have refused : (e'.process s "count" "-0.5").2 ≠ none := by decide +kernel
  obtain ⟨-, -, stored, -⟩ := count_scroll (e := e) rfl (by decide) on s
  obtain ⟨-, -, -, kept⟩ := count_scroll (e := e') rfl (by decide) on s
  have given : e.host.requestValue "DPL_count" "" = " 9e1 " := by decide +kernel
  have given' : e'.host.requestValue "DPL_count" "" = "-0.5" := by decide +kernel
  rw [given] at stored
  rw [given'] at kept
  obtain ⟨n, read, -, value⟩ := stored taken
  have ninety : Number.coerceInteger " 9e1 " none = some 90 := by decide +kernel
  obtain rfl := Option.some.inj (read.symm.trans ninety)
  exact ⟨on, value, kept.mp refused s⟩

end Engine

end WikiQuery
