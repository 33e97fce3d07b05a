import WikiQuery.Proofs.MainTitle
import WikiQuery.Proofs.Spacing

/-!
The case of namespaces' names. A wiki's own names are found in any case whatsoever. The names that every
wiki has are in ASCII and are found in any case of ASCII, which comes to the same but for one character:
of all that are not ASCII, the Kelvin sign alone has a lower case of ASCII, the letter k.
-/

set_option autoImplicit false

namespace WikiQuery

namespace Text

variable {c : Char} {cs : List Char} {name s : String}

/-- The sign of the unit of temperature; its lower case is the letter k. -/
def kelvinSign : Char := '\u212a'

/-- What the table of small letters says of ASCII: the letters of ASCII are lowered as if they were alone,
and of the others only the Kelvin sign is mapped into ASCII. -/
private theorem lowerRuns_ascii :
    (∀ code < 0x80, Char.ofNat code ≠ capitalSigma ∧
      lowerChar (Char.ofNat code) = [(Char.ofNat code).toLower]) ∧
    (lowerRuns.all fun run => run.last.blt 0x80 || Nat.ble 0x80 run.image ||
      run.first == kelvinSign.toNat && run.last == kelvinSign.toNat) = true := by
  decide +kernel

theorem lowerAfter_ascii (ascii : ∀ c ∈ cs, c.toNat < 0x80) (before : List Char) :
    lowerAfter before cs = cs.map Char.toLower := by
  induction cs generalizing before with
  | nil => rfl
  | cons c cs ih =>
    obtain ⟨noSigma, lower⟩ := lowerRuns_ascii.1 c.toNat (ascii c List.mem_cons_self)
    rw [Char.ofNat_toNat] at noSigma lower
    rw [lowerAfter, if_neg noSigma, lower, ih fun d member => ascii d (List.mem_cons_of_mem c member),
      List.singleton_append, List.map_cons]

/-- What is not ASCII stays so in lower case, the Kelvin sign apart. -/
theorem exists_high_mem_lowerBetween (high : 0x80 ≤ c.toNat) (other : c ≠ kelvinSign)
    (front back : Bool) : ∃ d ∈ lowerBetween front back c, 0x80 ≤ d.toNat := by
  unfold lowerBetween
  split
  · refine ⟨_, List.mem_singleton_self _, ?_⟩
    split
    · decide
    · decide
  · unfold lowerChar
    split
    · exact ⟨'\u0307', by simp, by decide⟩
    · refine ⟨_, List.mem_singleton_self _, ?_⟩
      rw [settled_lowerRuns.toNat_ofNat_map]
      rcases CaseRun.map_cases lowerRuns c.toNat with same | ⟨run, member, covered, image⟩
      · rwa [same]
      · simp only [CaseRun.covers, decide_eq_true_eq] at covered
        have kept := List.all_eq_true.mp lowerRuns_ascii.2 run member
        simp only [Bool.or_eq_true, Bool.and_eq_true, Nat.blt_eq, Nat.ble_eq, beq_iff_eq] at kept
        rw [image, CaseRun.apply]
        rcases kept with (low | beyond) | ⟨first, last⟩
        · omega
        · omega
        · exact absurd (Char.toNat_inj.mp (by omega)) other

theorem exists_high_mem_lowerAfter (member : c ∈ cs) (high : 0x80 ≤ c.toNat) (other : c ≠ kelvinSign)
    (before : List Char) : ∃ d ∈ lowerAfter before cs, 0x80 ≤ d.toNat := by
  induction cs generalizing before with
  | nil => cases member
  | cons e cs ih =>
    rw [lowerAfter_cons_eq]
    rcases List.mem_cons.mp member with rfl | later
    · obtain ⟨d, form, beyond⟩ := exists_high_mem_lowerBetween high other _ _
      exact ⟨d, List.mem_append_left _ form, beyond⟩
    · obtain ⟨d, form, beyond⟩ := ih later (e :: before)
      exact ⟨d, List.mem_append_right _ form, beyond⟩

/-- The Kelvin sign is the one character that is not ASCII and has its lower case in ASCII. -/
theorem lowered_singleton_ascii_iff (high : 0x80 ≤ c.toNat) :
    (∀ d ∈ lowered [c], d.toNat < 0x80) ↔ c = kelvinSign := by
  constructor
  · intro ascii
    by_contra other
    obtain ⟨d, form, beyond⟩ := exists_high_mem_lowerAfter (List.mem_singleton_self c) high other []
    exact Nat.not_lt.mpr beyond (ascii d form)
  · rintro rfl d form
    have letter : lowered [kelvinSign] = ['k'] := by decide +kernel
    obtain rfl := List.mem_singleton.mp (letter ▸ form)
    decide

/-- Without the Kelvin sign, a text of ASCII agrees with the lower case of another if it agrees with that as
it is written. -/
theorem eqIgnoringCase_lower (ascii : ∀ c ∈ name.toList, c.toNat < 0x80)
    (plain : kelvinSign ∉ s.toList) : eqIgnoringCase name (lower s) = eqIgnoringCase name s := by
  by_cases low : ∀ c ∈ s.toList, c.toNat < 0x80
  · have same : lower s = lowerAscii s := congrArg String.ofList (lowerAfter_ascii low [])
    rw [same, eqIgnoringCase_lowerAscii]
  · obtain ⟨c, member, high⟩ : ∃ c ∈ s.toList, 0x80 ≤ c.toNat := by simpa using low
    have other : c ≠ kelvinSign := fun same => plain (same ▸ member)
    obtain ⟨d, form, beyond⟩ := exists_high_mem_lowerAfter member high other []
    have written := eqIgnoringCase_eq_false_of_high ascii member high
    rw [String.ofList_toList] at written
    rw [lower, lowered, eqIgnoringCase_eq_false_of_high ascii form beyond, written]

end Text

namespace Namespace

open Text (kelvinSign)

variable {name : String} {c : Char}

/-- A name with a character that is neither ASCII nor white space is none that every wiki has. -/
theorem ofName?_eq_none_of_high (member : c ∈ name.toList) (high : 0x80 ≤ c.toNat)
    (solid : Text.isBlank c = false) (plain : c ≠ '_') : ofName? name = none := by
  obtain ⟨others, canonical⟩ := names_ascii
  have read : c ∈ (Text.fromKey name).toList := by
    rw [Text.toList_fromKey_map]
    exact List.mem_map.mpr ⟨c, member, Text.readChar_of_ne plain⟩
  have held := Text.mem_spaced_of_solid solid read
  have first : aliases.find? (fun entry => Text.eqIgnoringCase entry.1
      (Text.normalizeSpaces (Text.fromKey name))) = none :=
    List.find?_eq_none.mpr fun entry listed => Bool.eq_false_iff.mp
      (Text.eqIgnoringCase_eq_false_of_high (others entry listed) held high)
  have second : all.find? (fun ns => Text.eqIgnoringCase ns.canonicalName
      (Text.normalizeSpaces (Text.fromKey name))) = none :=
    List.find?_eq_none.mpr fun ns listed => Bool.eq_false_iff.mp
      (Text.eqIgnoringCase_eq_false_of_high (canonical ns listed) held high)
  unfold ofName?
  simp only [first, second]

theorem ofName?_eq_none_of_kelvinSign (sign : kelvinSign ∈ name.toList) : ofName? name = none :=
  ofName?_eq_none_of_high sign (by decide) (by decide) (by decide)

theorem ofName?_lower (plain : kelvinSign ∉ name.toList) : ofName? (Text.lower name) = ofName? name := by
  refine ofName?_congr fun known ascii => ?_
  rw [Text.normalizeSpaces_fromKey_lower]
  refine Text.eqIgnoringCase_lower ascii fun sign => ?_
  rw [Text.toList_normalizeSpaces] at sign
  rcases Text.mem_spaced_fromKey sign with space | inside
  · exact absurd space (by decide)
  · exact plain inside

end Namespace

namespace Site

open Text (kelvinSign)

/-- The key of a name does not see its case. -/
theorem namespaceKey_lower (name : String) : namespaceKey (Text.lower name) = namespaceKey name := by
  rw [namespaceKey, Text.normalizeSpaces_fromKey_lower, namespaceKey, Text.lower, Text.toList_lower,
    Text.lowered_lowered, Text.lower]

theorem indexAmong_of_ofName?_eq_none {name : String} (own : List (String × Int))
    (unnamed : Namespace.ofName? name = none) :
    indexAmong own name = List.lookup (namespaceKey name) own := by
  unfold indexAmong
  rw [unnamed]

/-- A name with the Kelvin sign is none that every wiki has. -/
theorem namespaceIndex_of_kelvinSign (site : Site) {name : String} (sign : kelvinSign ∈ name.toList) :
    site.namespaceIndex name = List.lookup (namespaceKey name) site.ownNamespaces :=
  indexAmong_of_ofName?_eq_none _ (Namespace.ofName?_eq_none_of_kelvinSign sign)

/-- A name is looked up alike in lower case and as it is written, unless it has the Kelvin sign and is in lower
case one that every wiki has. As it is written it is then looked up among the wiki's own names, and in lower
case it is the namespace of every wiki. The Kelvin sign is the only character for which that can be. -/
theorem namespaceIndex_lower (site : Site) (name : String) :
    (site.namespaceIndex name = site.namespaceIndex (Text.lower name) ↔
      (kelvinSign ∈ name.toList → ∀ ns, Namespace.ofName? (Text.lower name) = some ns →
        List.lookup (namespaceKey name) site.ownNamespaces = some ns.id)) ∧
    (kelvinSign ∈ name.toList →
      site.namespaceIndex name = List.lookup (namespaceKey name) site.ownNamespaces) ∧
    (∀ ns, Namespace.ofName? (Text.lower name) = some ns →
      site.namespaceIndex (Text.lower name) = some ns.id) ∧
    ∀ c : Char, 0x80 ≤ c.toNat →
      ((∀ d ∈ Text.lowered [c], d.toNat < 0x80) ↔ c = kelvinSign) := by
  have builtIn : ∀ ns, Namespace.ofName? (Text.lower name) = some ns →
      site.namespaceIndex (Text.lower name) = some ns.id :=
    fun ns named => indexAmong_of_ofName? _ named
  refine ⟨?_, site.namespaceIndex_of_kelvinSign, builtIn,
    fun c high => Text.lowered_singleton_ascii_iff high⟩
  by_cases sign : kelvinSign ∈ name.toList
  · rw [site.namespaceIndex_of_kelvinSign sign]
    cases named : Namespace.ofName? (Text.lower name) with
    | none =>
      rw [namespaceIndex, indexAmong_of_ofName?_eq_none _ named, namespaceKey_lower]
      simp
    | some ns =>
      rw [builtIn ns named]
      simp [sign]
  · have alike : site.namespaceIndex name = site.namespaceIndex (Text.lower name) := by
      unfold namespaceIndex indexAmong
      rw [Namespace.ofName?_lower sign, namespaceKey_lower]
    exact iff_of_true alike fun there => absurd there sign

/-- With the Kelvin sign for the last letter, the name of the namespace for talk is unknown. -/
theorem namespaceIndex_lower_kelvin :
    let site : Site := {}
    let name := "Tal\u212a"
    Text.lower name = "talk" ∧ site.namespaceIndex name = none ∧
      site.namespaceIndex (Text.lower name) = some Namespace.talk.id := by
  decide +kernel

end Site

end WikiQuery
