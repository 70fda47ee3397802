import LiveConsole.Proofs.Registry.Assignability

/-! What the built-in converters make of a value. Each of them gives values of the one type that it
converts to, and the lineage of a type holds no more than one such type. So nothing is left to be
converted in a value that was converted, whatever types a host has put below the built-in ones. -/
namespace LiveConsole

namespace TypeTable

theorem Grown.aboveBuiltin {table : TypeTable} (grown : Grown table) {tag ancestor : TypeTag}
    (isBuiltin : tag.index < TypeTable.builtin.size) (above : ancestor ∈ table.lineage tag) :
    ancestor = tag ∨ ancestor = .object := by
  have rows : ∀ index < TypeTable.builtin.size, ∀ ancestor ∈ TypeTable.builtin.lineage ⟨index⟩,
      ancestor = ⟨index⟩ ∨ ancestor = .object := by decide
  rw [grown.builtin.lineage tag isBuiltin] at above
  exact rows tag.index isBuiltin ancestor above

theorem Grown.oneBuiltin {table : TypeTable} (grown : Grown table) {a b tag : TypeTag}
    (isBuiltin : a.index < TypeTable.builtin.size) (isBuiltinToo : b.index < TypeTable.builtin.size)
    (belowRoot : a ≠ .object) (belowRootToo : b ≠ .object) (above : a ∈ table.lineage tag)
    (aboveToo : b ∈ table.lineage tag) : a = b := by
  have comparable := grown.treeOrder.comparable tag a b (assignableIff.mpr above)
    (assignableIff.mpr aboveToo)
  rw [assignableIff, assignableIff] at comparable
  rcases comparable with beyond | beyond
  · exact ((grown.aboveBuiltin isBuiltin beyond).resolve_right belowRootToo).symm
  · exact (grown.aboveBuiltin isBuiltinToo beyond).resolve_right belowRoot

end TypeTable

namespace Converter

variable {σ : Type}

structure Honest (converter : Converter σ) : Prop where
  quiet : ∀ host value requested types, (converter.run host value requested types).2 = host
  typed : ∀ host value requested types result,
    (converter.run host value requested types).1 = some result →
      types.tagOf? result = some converter.target

theorem plainHonest {target source : TypeTag} {run : TypeTable → Value → Option Value}
    (typed : ∀ types value result, run types value = some result →
      types.tagOf? result = some target) : (plain target source run : Converter σ).Honest :=
  ⟨fun _ _ _ _ => rfl, fun _ value _ types result => typed types value result⟩

theorem madeTyped {α β : Type} {types : TypeTable} {target : TypeTag} {part : Option α}
    {read : α → Option β} {make : β → Value} {result : Value}
    (fits : ∀ found, types.tagOf? (make found) = some target)
    (made : (part.bind fun text => (read text).map make) = some result) :
    types.tagOf? result = some target := by
  obtain ⟨text, -, found⟩ := Option.bind_eq_some_iff.mp made
  obtain ⟨value, -, rfl⟩ := Option.map_eq_some_iff.mp found
  exact fits value

variable [Host σ]

def display : Converter σ :=
  ⟨.string, .object, true, fun host value _ _ => (some (.string (value.display host)), host)⟩

theorem builtinHonest : ∀ converter ∈ (builtins : List (Converter σ)), converter.Honest := by
  unfold builtins
  simp only [List.forall_mem_cons, List.not_mem_nil, false_implies, implies_true, and_true]
  refine ⟨plainHonest fun types value result made => madeTyped (fun _ => rfl) made,
    plainHonest fun types value result made => madeTyped (fun _ => rfl) made,
    plainHonest fun types value result made => madeTyped (fun _ => rfl) made,
    plainHonest fun types value result made => ?_,
    plainHonest fun types value result made => madeTyped (fun _ => rfl) made,
    fun _ _ _ _ => rfl, fun _ _ _ _ _ made => ?_⟩
  · obtain ⟨number, -, rfl⟩ := Option.map_eq_some_iff.mp made
    rfl
  · cases made
    rfl

structure Declared (converter : Converter σ) : Prop where
  target : converter.target.index < TypeTable.builtin.size
  belowRoot : converter.target ≠ .object
  other : converter.source ≠ converter.target
  text : converter.source = .object ∨ converter.target = .string →
    converter.key = (.string, .object)

theorem builtinDeclared : ∀ converter ∈ (builtins : List (Converter σ)), converter.Declared := by
  have keys : ∀ key ∈ [(TypeTag.int, TypeTag.string), (.float, .string), (.bool, .string),
      (.float, .int), (.type, .string), (.string, .object)],
      key.1.index < TypeTable.builtin.size ∧ key.1 ≠ .object ∧ key.2 ≠ key.1 ∧
        (key.2 = .object ∨ key.1 = .string → key = (.string, .object)) := by decide
  intro converter member
  obtain ⟨target, belowRoot, other, text⟩ :=
    keys converter.key (List.mem_map_of_mem member)
  exact ⟨target, belowRoot, other, text⟩

theorem displayOnly {converter : Converter σ} (member : converter ∈ (builtins : List (Converter σ)))
    (text : converter.key = (.string, .object)) : converter = display :=
  List.inj_on_of_nodup_map Registry.initialKeyed.1 member
    (by simp [Registry.initial, builtins, display]) text

end Converter

namespace Registry

variable {σ : Type}

inductive Converted (registry : Registry σ) (host : σ) (value : Value) (requested : TypeTag) :
    Value × σ → Prop where
  | kept : Converted registry host value requested (value, host)
  | asked {actual : TypeTag} {converter : Converter σ}
      (tagged : registry.types.tagOf? value = some actual)
      (picked : registry.converterFor? requested actual = some converter) :
      Converted registry host value requested
        (((converter.run host value requested registry.types).1.getD value),
          (converter.run host value requested registry.types).2)

theorem converted (registry : Registry σ) (host : σ) (value : Value) (requested : TypeTag) :
    Converted registry host value requested (registry.convert host value requested) := by
  unfold convert
  split
  · exact .kept
  · rename_i actual tagged
    split
    · exact .kept
    · split
      · exact .kept
      · rename_i converter picked
        exact .asked tagged picked

variable [Host σ]

structure Standard (registry : Registry σ) : Prop where
  converters : registry.converters = Converter.builtins
  types : registry.types.Grown

theorem Standard.distinct {registry : Registry σ} (standard : registry.Standard) :
    (registry.converters.map Converter.key).Nodup := by
  rw [standard.converters]
  exact initialKeyed.1

theorem Standard.picked {registry : Registry σ} (standard : registry.Standard)
    {requested actual : TypeTag} {converter : Converter σ}
    (picked : registry.converterFor? requested actual = some converter) :
    converter ∈ (Converter.builtins : List (Converter σ)) ∧
      converter.Applies registry.types requested actual := by
  obtain ⟨member, applies, -⟩ :=
    (converterPicked standard.distinct requested actual).nearest converter picked
  exact ⟨standard.converters ▸ member, applies⟩

inductive Given (registry : Registry σ) (host : σ) (value : Value) (requested : TypeTag) :
    Value → Prop where
  | same : Given registry host value requested value
  | made {converter : Converter σ} {result : Value}
      (member : converter ∈ (Converter.builtins : List (Converter σ)))
      (above : converter.target ∈ registry.types.lineage requested)
      (ran : converter.run host value requested registry.types = (some result, host)) :
      Given registry host value requested result

theorem Standard.given {registry : Registry σ} (standard : registry.Standard) (host : σ)
    (value : Value) (requested : TypeTag) :
    ∃ result, registry.convert host value requested = (result, host) ∧
      Given registry host value requested result := by
  have outcome := converted registry host value requested
  generalize registry.convert host value requested = answer at outcome ⊢
  cases outcome with
  | kept => exact ⟨value, rfl, .same⟩
  | @asked actual converter tagged picked =>
    obtain ⟨member, above, -⟩ := standard.picked picked
    have quiet := (Converter.builtinHonest converter member).quiet host value requested
      registry.types
    cases ran : converter.run host value requested registry.types with
    | mk result after =>
      rw [ran] at quiet
      subst quiet
      cases result with
      | none => exact ⟨value, rfl, .same⟩
      | some result => exact ⟨result, rfl, .made member above ran⟩

/- The only converter that takes what another one has made is the one that gives every value its
text, and it gives the same text again. -/
theorem Standard.settled {registry : Registry σ} (standard : registry.Standard) {host : σ}
    {value result : Value} {requested : TypeTag} {converter : Converter σ}
    (member : converter ∈ (Converter.builtins : List (Converter σ)))
    (above : converter.target ∈ registry.types.lineage requested)
    (ran : converter.run host value requested registry.types = (some result, host)) :
    registry.convert host result requested = (result, host) := by
  have tagged := (Converter.builtinHonest converter member).typed host value requested
    registry.types result (congrArg Prod.fst ran)
  have outcome := converted registry host result requested
  generalize registry.convert host result requested = answer at outcome ⊢
  cases outcome with
  | kept => rfl
  | @asked actual second tagged' picked =>
    cases Option.some.inj (tagged.symm.trans tagged')
    obtain ⟨memberToo, aboveToo, source⟩ := standard.picked picked
    have first := Converter.builtinDeclared converter member
    have later := Converter.builtinDeclared second memberToo
    have target : second.target = converter.target :=
      standard.types.oneBuiltin later.target first.target later.belowRoot first.belowRoot aboveToo
        above
    -- A converter is not for its own target, so this one takes values of any type.
    have source : second.source = .object :=
      (standard.types.aboveBuiltin first.target source).resolve_left (target ▸ later.other)
    have text := later.text (.inl source)
    obtain rfl := Converter.displayOnly memberToo text
    obtain rfl := Converter.displayOnly member (first.text (.inr target.symm))
    cases ran
    rfl

theorem conversionIsIdempotent {registry : Registry σ} {trials : List TypeTable.Trial}
    (converters : registry.converters = Converter.builtins)
    (tried : TypeTable.Trials .builtin trials registry.types) (host : σ) (value : Value)
    (requested : TypeTag) :
    ∃ result, registry.convert host value requested = (result, host) ∧
      registry.convert host result requested = (result, host) ∧
      (result = value ∨ ∃ converter ∈ registry.converters,
        registry.types.tagOf? result = some converter.target ∧
        converter.target ∈ registry.types.lineage requested) := by
  have standard : registry.Standard := ⟨converters, tried.grown TypeTable.builtinGrown⟩
  obtain ⟨result, first, given⟩ := standard.given host value requested
  refine ⟨result, first, ?_⟩
  cases given with
  | same => exact ⟨first, .inl rfl⟩
  | @made converter _ member above ran =>
    have tagged := (Converter.builtinHonest converter member).typed host value requested
      registry.types result (congrArg Prod.fst ran)
    exact ⟨standard.settled member above ran,
      .inr ⟨converter, converters ▸ member, tagged, above⟩⟩

theorem wordsAreTexts :
    ∃ registry : Registry Scene,
      registry = Registry.initial.afterAll [.type "word" (some "string")] ∧
      registry.convert .empty (.int 5) ⟨7⟩ = (.string "5", .empty) ∧
      registry.types.tagOf? (.string "5") ≠ some ⟨7⟩ ∧
      registry.convert .empty (.string "5") ⟨7⟩ = (.string "5", .empty) := by
  have tried := trialsMade (Registry.initial : Registry Scene) [.type "word" (some "string")]
  obtain ⟨result, first, again, -⟩ := conversionIsIdempotent rfl tried Scene.empty (.int 5) ⟨7⟩
  have text : result = .string "5" := (congrArg Prod.fst first).symm.trans rfl
  subst text
  exact ⟨_, rfl, first, by simp [TypeTable.tagOf?, TypeTag.string], again⟩

end Registry
end LiveConsole
