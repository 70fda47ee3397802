import LiveConsole.Presenter
import Mathlib.Tactic.ByContra

/-! The choice of the nearest entry. Of entries with different ranks one is ranked before all others,
and it is the one that is chosen, in whatever order they come. -/
namespace LiveConsole

structure Strict {β : Type} (beats : β → β → Bool) : Prop where
  asymmetric : ∀ a b, beats a b = true → beats b a = false
  transitive : ∀ a b c, beats a b = true → beats b c = true → beats a c = true
  total : ∀ a b, a ≠ b → beats a b = true ∨ beats b a = true

theorem ConverterRank.beatsIff (a b : ConverterRank) :
    a.beats b = true ↔ a.source < b.source ∨ a.source = b.source ∧ a.target < b.target := by
  simp [beats]

theorem ConverterRank.strict : Strict ConverterRank.beats := by
  refine ⟨fun a b => ?_, fun a b c => ?_, fun ⟨aSource, aTarget⟩ ⟨bSource, bTarget⟩ => ?_⟩
  · rw [← Bool.not_eq_true, beatsIff, beatsIff]
    omega
  · rw [beatsIff, beatsIff, beatsIff]
    omega
  · rw [beatsIff, beatsIff, ne_eq, mk.injEq]
    simp only
    omega

theorem strictLess : Strict fun a b : Nat => decide (a < b) := by
  refine ⟨fun a b => ?_, fun a b c => ?_, fun a b => ?_⟩ <;> simp only [decide_eq_true_eq,
    decide_eq_false_iff_not] <;> omega

variable {α β : Type} {beats : β → β → Bool}

theorem bestOfNone (ranked : List (β × α)) : bestOf? beats ranked = none ↔ ranked = [] := by
  cases ranked with
  | nil => simp [bestOf?]
  | cons first rest =>
    rw [bestOf?]
    cases bestOf? beats rest with
    | none => simp
    | some best => by_cases before : beats best.1 first.1 <;> simp [before]

theorem bestOfSome (strict : Strict beats) {ranked : List (β × α)} {best : β × α}
    (found : bestOf? beats ranked = some best) :
    best ∈ ranked ∧ ∀ other ∈ ranked, beats other.1 best.1 = false := by
  have irreflexive : ∀ rank, beats rank rank = false := fun rank =>
    Bool.eq_false_iff.mpr fun same => Bool.noConfusion (same.symm.trans (strict.asymmetric _ _ same))
  induction ranked generalizing best with
  | nil => contradiction
  | cons first rest ih =>
    rw [bestOf?] at found
    cases later : bestOf? beats rest with
    | none =>
      rw [later] at found
      cases found
      rw [(bestOfNone rest).mp later]
      simp [irreflexive]
    | some champion =>
      obtain ⟨member, leads⟩ := ih later
      simp only [later] at found
      by_cases before : beats champion.1 first.1
      · rw [if_pos before] at found
        cases found
        refine ⟨List.mem_cons_of_mem _ member, fun other among => ?_⟩
        rcases List.mem_cons.mp among with rfl | behind
        · exact strict.asymmetric _ _ before
        · exact leads other behind
      · rw [if_neg before] at found
        cases found
        refine ⟨List.mem_cons_self, fun other among => ?_⟩
        rcases List.mem_cons.mp among with rfl | behind
        · exact irreflexive other.1
        · -- What beat the first would beat the best of the rest, which does not beat the first.
          refine Bool.eq_false_iff.mpr fun better => ?_
          by_cases same : champion.1 = first.1
          · exact absurd better (by rw [← same, leads other behind]; simp)
          · have worse := (strict.total _ _ same).resolve_left before
            exact absurd (strict.transitive _ _ _ better worse) (by rw [leads other behind]; simp)

structure Nearest (beats : β → β → Bool) (rank? : α → Option β) (list : List α) (best : α) :
    Prop where
  member : best ∈ list
  ahead : ∃ rank, rank? best = some rank ∧ ∀ other ∈ list, other ≠ best →
    ∀ further, rank? other = some further → beats rank further = true

def nearest? (beats : β → β → Bool) (rank? : α → Option β) (list : List α) : Option α :=
  (bestOf? beats (list.filterMap fun entry => (rank? entry).map fun rank => (rank, entry))).map
    Prod.snd

theorem rankedIff {rank? : α → Option β} {list : List α} {rank : β} {entry : α} :
    (rank, entry) ∈ (list.filterMap fun entry => (rank? entry).map fun rank => (rank, entry)) ↔
      entry ∈ list ∧ rank? entry = some rank := by
  constructor
  · intro member
    obtain ⟨other, inside, found⟩ := List.mem_filterMap.mp member
    obtain ⟨further, ranked, same⟩ := Option.map_eq_some_iff.mp found
    cases same
    exact ⟨inside, ranked⟩
  · rintro ⟨inside, ranked⟩
    exact List.mem_filterMap.mpr ⟨entry, inside, by rw [ranked]; rfl⟩

theorem nearestNone (rank? : α → Option β) (list : List α) :
    nearest? beats rank? list = none ↔ ∀ entry ∈ list, rank? entry = none := by
  simp [nearest?, bestOfNone, List.filterMap_eq_nil_iff]

theorem nearestMember (strict : Strict beats) {rank? : α → Option β} {list : List α} {best : α}
    (found : nearest? beats rank? list = some best) : best ∈ list := by
  obtain ⟨⟨rank, entry⟩, chosen, rfl⟩ := Option.map_eq_some_iff.mp found
  exact (rankedIff.mp (bestOfSome strict chosen).1).1

def RanksDiffer (rank? : α → Option β) (list : List α) : Prop :=
  ∀ entry ∈ list, ∀ other ∈ list, ∀ rank, rank? entry = some rank → rank? other = some rank →
    entry = other

theorem nearestSome (strict : Strict beats) {rank? : α → Option β} {list : List α}
    (apart : RanksDiffer rank? list) {best : α} (found : nearest? beats rank? list = some best) :
    Nearest beats rank? list best := by
  obtain ⟨⟨rank, entry⟩, chosen, rfl⟩ := Option.map_eq_some_iff.mp found
  obtain ⟨among, leads⟩ := bestOfSome strict chosen
  obtain ⟨member, ranked⟩ := rankedIff.mp among
  refine ⟨member, rank, ranked, fun other inside different further reached => ?_⟩
  have unbeaten := leads (further, other) (rankedIff.mpr ⟨inside, reached⟩)
  have unequal : rank ≠ further := by
    rintro rfl
    exact different (apart other inside entry member rank reached ranked)
  exact (strict.total rank further unequal).resolve_right (by simp [unbeaten])

theorem Nearest.unique (strict : Strict beats) {rank? : α → Option β} {list others : List α}
    (same : ∀ entry, entry ∈ list ↔ entry ∈ others) {best second : α}
    (first : Nearest beats rank? list best) (also : Nearest beats rank? others second) :
    best = second := by
  obtain ⟨rank, ranked, leads⟩ := first.ahead
  obtain ⟨further, reached, alsoLeads⟩ := also.ahead
  by_contra different
  have ahead := leads second ((same second).mpr also.member) (Ne.symm different) further reached
  have behind := alsoLeads best ((same best).mp first.member) different rank ranked
  exact absurd behind (by simp [strict.asymmetric _ _ ahead])

theorem nearestSame (strict : Strict beats) {rank? : α → Option β} {list others : List α}
    (apart : RanksDiffer rank? list) (same : ∀ entry, entry ∈ list ↔ entry ∈ others) :
    nearest? beats rank? list = nearest? beats rank? others := by
  have alsoApart : RanksDiffer rank? others := fun entry inside other also =>
    apart entry ((same entry).mpr inside) other ((same other).mpr also)
  have nothing : nearest? beats rank? list = none ↔ nearest? beats rank? others = none := by
    rw [nearestNone, nearestNone]
    exact forall_congr' fun entry => imp_congr_left (same entry)
  cases first : nearest? beats rank? list with
  | none => exact (nothing.mp first).symm
  | some best =>
    cases also : nearest? beats rank? others with
    | none => exact absurd (nothing.mpr also) (by simp [first])
    | some second =>
      exact congrArg some ((nearestSome strict apart first).unique strict same
        (nearestSome strict alsoApart also))

end LiveConsole
