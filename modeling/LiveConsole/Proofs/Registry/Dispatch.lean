import LiveConsole.Proofs.Registry.Nearest
import LiveConsole.Proofs.Registry.Registration
import LiveConsole.Scene.Basic

/-! Which converter and which presenter is taken: of those that apply, the one that is nearest. A
distance is a place in a lineage, so entries under different keys are never equally near, and the
choice does not depend on the order in which they were registered. -/
namespace LiveConsole

namespace TypeTable

theorem distancePlace {table : TypeTable} {target actual : TypeTag} {steps : Nat}
    (found : table.distance? target actual = some steps) :
    (table.lineage actual)[steps]? = some target := by
  obtain ⟨inside, same, -⟩ := List.findIdx?_eq_some_iff_getElem.mp found
  rw [List.getElem?_eq_getElem inside, beq_iff_eq.mp same]

theorem distanceNone (table : TypeTable) (target actual : TypeTag) :
    table.distance? target actual = none ↔ target ∉ table.lineage actual := by
  unfold distance?
  rw [List.findIdx?_eq_none_iff]
  refine ⟨fun never member => ?_, fun absent tag member => ?_⟩
  · simpa using never target member
  · exact beq_eq_false_iff_ne.mpr fun same => absent (same ▸ member)

end TypeTable

section Keys
variable {σ : Type}

def Converter.key (converter : Converter σ) : TypeTag × TypeTag :=
  (converter.target, converter.source)

def Converter.Applies (converter : Converter σ) (types : TypeTable)
    (requested actual : TypeTag) : Prop :=
  converter.target ∈ types.lineage requested ∧ converter.source ∈ types.lineage actual

def Converter.Nearer (types : TypeTable) (requested actual : TypeTag) (near far : Converter σ) :
    Prop :=
  ∃ rank further, near.rank? types requested actual = some rank ∧
    far.rank? types requested actual = some further ∧
    (rank.source < further.source ∨
      rank.source = further.source ∧ rank.target < further.target)

theorem Converter.rankNone (converter : Converter σ) (types : TypeTable)
    (requested actual : TypeTag) :
    converter.rank? types requested actual = none ↔ ¬ converter.Applies types requested actual := by
  have target := types.distanceNone converter.target requested
  have source := types.distanceNone converter.source actual
  unfold rank? Applies
  cases near : types.distance? converter.target requested <;>
    cases far : types.distance? converter.source actual <;> simp_all

theorem Converter.apart {converters : List (Converter σ)}
    (distinct : (converters.map Converter.key).Nodup) (types : TypeTable)
    (requested actual : TypeTag) :
    RanksDiffer (fun c : Converter σ => c.rank? types requested actual) converters := by
  have places : ∀ {c : Converter σ} {rank : ConverterRank},
      c.rank? types requested actual = some rank →
      (types.lineage requested)[rank.target]? = some c.target ∧
        (types.lineage actual)[rank.source]? = some c.source := by
    intro c rank ranked
    obtain ⟨target, toTarget, rest⟩ := Option.bind_eq_some_iff.mp ranked
    obtain ⟨source, toSource, last⟩ := Option.bind_eq_some_iff.mp rest
    cases last
    exact ⟨TypeTable.distancePlace toTarget, TypeTable.distancePlace toSource⟩
  intro converter inside other also rank ranked reached
  obtain ⟨target, source⟩ := places ranked
  obtain ⟨otherTarget, otherSource⟩ := places reached
  refine List.inj_on_of_nodup_map distinct inside also ?_
  exact Prod.ext (Option.some.inj (target.symm.trans otherTarget))
    (Option.some.inj (source.symm.trans otherSource))

theorem Presenter.apart {presenters : List (Presenter σ)}
    (distinct : (presenters.map Presenter.type).Nodup) (types : TypeTable) (actual : TypeTag) :
    RanksDiffer (fun p : Presenter σ => types.distance? p.type actual) presenters := by
  intro presenter inside other also steps ranked reached
  have place := TypeTable.distancePlace ranked
  have otherPlace := TypeTable.distancePlace reached
  exact List.inj_on_of_nodup_map distinct inside also
    (Option.some.inj (place.symm.trans otherPlace))

end Keys

namespace Registry

variable {σ : Type}

theorem converterAdded (registry : Registry σ) (converter : Converter σ) :
    (registry.registerConverter converter).1 =
      { registry with converters := Keyed.put Converter.key converter registry.converters } := by
  rw [Keyed.putFound Converter.key converter registry.converters
    (fun other => other.target == converter.target && other.source == converter.source)
    fun other => by simp [Converter.key]]
  unfold registerConverter
  split <;> rename_i found <;> rw [found] <;> rfl

theorem presenterAdded (registry : Registry σ) (presenter : Presenter σ) :
    (registry.registerPresenter presenter).1 =
      { registry with presenters := Keyed.put Presenter.type presenter registry.presenters } := by
  rw [Keyed.putFound Presenter.type presenter registry.presenters
    (fun other => other.type == presenter.type) fun other => beq_iff_eq]
  unfold registerPresenter
  split <;> rename_i found <;> rw [found] <;> rfl

theorem afterDispatch (registry : Registry σ) (asked : Registration σ) :
    (registry.after asked).converters =
        Keyed.putAll Converter.key registry.converters asked.converter?.toList ∧
      (registry.after asked).presenters =
        Keyed.putAll Presenter.type registry.presenters asked.presenter?.toList := by
  cases asked with
  | converter converter =>
    have done : registry.after (.converter converter) = _ := converterAdded registry converter
    rw [done]
    exact ⟨rfl, rfl⟩
  | presenter presenter =>
    have done : registry.after (.presenter presenter) = _ := presenterAdded registry presenter
    rw [done]
    exact ⟨rfl, rfl⟩
  | command command =>
    rcases afterCommand registry command with ⟨error, -, same⟩ | ⟨next, notes, done, same⟩
    · rw [same]
      exact ⟨rfl, rfl⟩
    · obtain ⟨-, rfl⟩ := commandRegistered done
      rw [same]
      exact ⟨rfl, rfl⟩
  | type name parent =>
    rcases afterType registry name parent with ⟨error, -, same⟩ | ⟨next, tag, done, same⟩
    · rw [same]
      exact ⟨rfl, rfl⟩
    · obtain ⟨above, types, -, rfl⟩ := typeRegistered done
      rw [same]
      exact ⟨rfl, rfl⟩
  | _ => exact ⟨rfl, rfl⟩

theorem convertersAsked (registry : Registry σ) (asked : List (Registration σ)) :
    (registry.afterAll asked).converters =
      Keyed.putAll Converter.key registry.converters (asked.filterMap Registration.converter?) :=
  afterAllPut (fun registry asked => (afterDispatch registry asked).1) registry asked

theorem presentersAsked (registry : Registry σ) (asked : List (Registration σ)) :
    (registry.afterAll asked).presenters =
      Keyed.putAll Presenter.type registry.presenters (asked.filterMap Registration.presenter?) :=
  afterAllPut (fun registry asked => (afterDispatch registry asked).2) registry asked

structure PicksConverter (registry : Registry σ) (requested actual : TypeTag)
    (picked : Option (Converter σ)) : Prop where
  noneIff : picked = none ↔
    ∀ other ∈ registry.converters, ¬ other.Applies registry.types requested actual
  nearest : ∀ best, picked = some best →
    best ∈ registry.converters ∧ best.Applies registry.types requested actual ∧
      ∀ other ∈ registry.converters, other ≠ best →
        other.Applies registry.types requested actual →
        Converter.Nearer registry.types requested actual best other

structure PicksPresenter (registry : Registry σ) (value : Value)
    (picked : Option (Presenter σ)) : Prop where
  noneIff : picked = none ↔ ∀ actual, registry.types.tagOf? value = some actual →
    ∀ other ∈ registry.presenters, other.type ∉ registry.types.lineage actual
  nearest : ∀ best, picked = some best →
    best ∈ registry.presenters ∧ ∃ actual steps, registry.types.tagOf? value = some actual ∧
      registry.types.distance? best.type actual = some steps ∧
      ∀ other ∈ registry.presenters, other ≠ best → ∀ further,
        registry.types.distance? other.type actual = some further → steps < further

theorem converterPicked {registry : Registry σ}
    (distinct : (registry.converters.map Converter.key).Nodup) (requested actual : TypeTag) :
    registry.PicksConverter requested actual (registry.converterFor? requested actual) := by
  have ranked : ∀ c : Converter σ, c.Applies registry.types requested actual ↔
      ∃ rank, c.rank? registry.types requested actual = some rank := by
    intro c
    rw [← Option.ne_none_iff_exists', ne_eq, c.rankNone, not_not]
  refine ⟨?_, fun best found => ?_⟩
  · refine (nearestNone _ registry.converters).trans ?_
    exact forall₂_congr fun other _ => other.rankNone registry.types requested actual
  · have nearest := nearestSome ConverterRank.strict
      (Converter.apart distinct registry.types requested actual) found
    obtain ⟨rank, reached, leads⟩ := nearest.ahead
    refine ⟨nearest.member, (ranked best).mpr ⟨rank, reached⟩, fun other inside different also => ?_⟩
    obtain ⟨further, far⟩ := (ranked other).mp also
    exact ⟨rank, further, reached, far,
      (rank.beatsIff further).mp (leads other inside different further far)⟩

theorem presenterPicked {registry : Registry σ}
    (distinct : (registry.presenters.map Presenter.type).Nodup) (value : Value) :
    registry.PicksPresenter value (registry.presenterFor? value) := by
  unfold presenterFor?
  cases tagged : registry.types.tagOf? value with
  | none => exact ⟨by simp [tagged], by simp⟩
  | some actual =>
    refine ⟨?_, fun best found => ?_⟩
    · refine (nearestNone _ registry.presenters).trans ?_
      simp only [TypeTable.distanceNone, tagged, Option.some.injEq, forall_eq']
    · have nearest := nearestSome strictLess
        (Presenter.apart distinct registry.types actual) found
      obtain ⟨steps, reached, leads⟩ := nearest.ahead
      exact ⟨nearest.member, actual, steps, tagged, reached, fun other inside different further far =>
        of_decide_eq_true (leads other inside different further far)⟩

variable [Host σ]

theorem initialKeyed :
    ((initial : Registry σ).converters.map Converter.key).Nodup ∧
      ((initial : Registry σ).presenters.map Presenter.type).Nodup := by
  constructor
  · change [(TypeTag.int, TypeTag.string), (.float, .string), (.bool, .string), (.float, .int),
      (.type, .string), (.string, .object)].Nodup
    decide
  · change [TypeTag.list, .type, .object].Nodup
    decide

theorem Reachable.keyed {registry : Registry σ} (reached : Reachable registry) :
    (registry.converters.map Converter.key).Nodup ∧
      (registry.presenters.map Presenter.type).Nodup := by
  obtain ⟨asked, rfl⟩ := reached.asked
  rw [convertersAsked, presentersAsked]
  exact ⟨Keyed.putAllDistinct _ initialKeyed.1 _, Keyed.putAllDistinct _ initialKeyed.2 _⟩

structure Alike (asked others : List (Registration σ)) : Prop where
  types : (initial.afterAll asked).types = (initial.afterAll others).types
  converters : (asked.filterMap Registration.converter?).Perm
    (others.filterMap Registration.converter?)
  presenters : (asked.filterMap Registration.presenter?).Perm
    (others.filterMap Registration.presenter?)
  converterKeys : ((asked.filterMap Registration.converter?).map Converter.key).Nodup
  presenterTypes : ((asked.filterMap Registration.presenter?).map Presenter.type).Nodup

theorem Alike.converterSame {asked others : List (Registration σ)} (alike : Alike asked others)
    (requested actual : TypeTag) :
    (initial.afterAll asked).converterFor? requested actual =
      (initial.afterAll others).converterFor? requested actual := by
  have same : ∀ converter, converter ∈ (initial.afterAll asked).converters ↔
      converter ∈ (initial.afterAll others).converters := by
    rw [convertersAsked, convertersAsked]
    exact Keyed.putAllSame _ initialKeyed.1 alike.converters alike.converterKeys
  unfold converterFor?
  rw [← alike.types]
  exact nearestSame ConverterRank.strict
    (Converter.apart (Reachable.initial.afterAll asked).keyed.1 _ requested actual) same

theorem Alike.presenterSame {asked others : List (Registration σ)} (alike : Alike asked others)
    (value : Value) : (initial.afterAll asked).presenterFor? value =
      (initial.afterAll others).presenterFor? value := by
  have same : ∀ presenter, presenter ∈ (initial.afterAll asked).presenters ↔
      presenter ∈ (initial.afterAll others).presenters := by
    rw [presentersAsked, presentersAsked]
    exact Keyed.putAllSame _ initialKeyed.2 alike.presenters alike.presenterTypes
  unfold presenterFor?
  rw [← alike.types]
  refine Option.bind_congr fun actual _ => ?_
  exact nearestSame strictLess
    (Presenter.apart (Reachable.initial.afterAll asked).keyed.2 _ actual) same

theorem Alike.convertSame {asked others : List (Registration σ)} (alike : Alike asked others)
    (host : σ) (value : Value) (requested : TypeTag) :
    (initial.afterAll asked).convert host value requested =
      (initial.afterAll others).convert host value requested := by
  unfold convert
  simp only [alike.types, alike.converterSame]

theorem nearestIsTaken {registry : Registry σ} (reached : registry.Reachable) :
    (registry.converters.map Converter.key).Nodup ∧
    (registry.presenters.map Presenter.type).Nodup ∧
    (∀ requested actual,
      registry.PicksConverter requested actual (registry.converterFor? requested actual)) ∧
    (∀ value, registry.PicksPresenter value (registry.presenterFor? value)) ∧
    ∀ asked others : List (Registration σ), Alike asked others →
      (∀ host value requested, (initial.afterAll asked).convert host value requested =
        (initial.afterAll others).convert host value requested) ∧
      ∀ value, (initial.afterAll asked).presenterFor? value =
        (initial.afterAll others).presenterFor? value := by
  obtain ⟨converters, presenters⟩ := reached.keyed
  exact ⟨converters, presenters, converterPicked converters, presenterPicked presenters,
    fun asked others alike => ⟨alike.convertSame, alike.presenterSame⟩⟩

theorem eitherOrder :
    ∃ first second : Converter Scene, ∃ presenter : Presenter Scene,
      first.key = (.int, .string) ∧ second.key = (.list, .object) ∧
      ∀ host value requested,
        (initial.afterAll [.type "unit" none, .converter first, .presenter presenter,
          .converter second]).convert host value requested =
        (initial.afterAll [.converter second, .type "unit" none, .presenter presenter,
          .converter first]).convert host value requested := by
  let first : Converter Scene := .plain .int .string fun _ _ => none
  let second : Converter Scene := .plain .list .object fun _ value => some (.list [value])
  let presenter : Presenter Scene := ⟨.object, fun host _ _ => ([], host)⟩
  have alike : Alike [.type "unit" none, .converter first, .presenter presenter,
      .converter second] [.converter second, .type "unit" none, .presenter presenter,
      .converter first] := by
    refine ⟨rfl, List.Perm.swap second first [], List.Perm.refl _, ?_, List.nodup_singleton _⟩
    change [(TypeTag.int, TypeTag.string), (.list, .object)].Nodup
    decide
  have taken := nearestIsTaken (@Reachable.initial Scene _)
  exact ⟨first, second, presenter, rfl, rfl, (taken.2.2.2.2 _ _ alike).1⟩

end Registry
end LiveConsole
