import LiveConsole.Proofs.Json.Spelling
import LiveConsole.Proofs.Line.Boundary
import LiveConsole.Proofs.Registry.Conversion

/-! Values that come back from their text. A value of any type but `string` is turned into a string
by its text, and a text is read by the one converter that makes what is asked for of strings. So
whole numbers, truth values and registered types survive the way there and back. -/
namespace LiveConsole

namespace Text

theorem trimVisible {chars : List Char} (visible : ∀ c ∈ chars, isBlank c = false) :
    trim chars = chars := by
  have kept : ∀ list : List Char, (∀ c ∈ list, isBlank c = false) →
      list.dropWhile isBlank = list := by
    intro list visible
    cases list with
    | nil => rfl
    | cons c rest => simp [visible c List.mem_cons_self]
  have reversed : ∀ c ∈ chars.reverse, isBlank c = false :=
    fun c member => visible c (List.mem_reverse.mp member)
  rw [trim, trimStart, kept chars visible, trimEnd, kept _ reversed, List.reverse_reverse]

theorem digitVisible {c : Char} (digit : c.isDigit = true) : isBlank c = false := by
  have alphanumeric : c.isAlphanum = true := by simp [Char.isAlphanum, digit]
  have ascii : c.toNat < 0x80 := by
    have upper : c.toNat ≤ '9'.toNat := (Char.isDigit_iff_toNat.mp digit).2
    exact Nat.lt_of_le_of_lt upper (by decide)
  exact wordNotBlank (by simp [isWord, ascii, alphanumeric])

end Text

namespace Number

theorem unsignedDigits (n : Nat) : signOf (Nat.toDigits 10 n) = (false, Nat.toDigits 10 n) := by
  obtain ⟨c, tail, digits, digit⟩ := RawJson.decimalHead n
  have unsigned : c ≠ '+' ∧ c ≠ '-' := by
    constructor <;>
    · rintro rfl
      cases digit
  rw [digits, signOf]
  · exact fun _ same => unsigned.1 (List.cons.inj same).1
  · exact fun _ same => unsigned.2 (List.cons.inj same).1

theorem readSigned {chars digits : List Char} {negative : Bool} {n : Nat} {i : Int64}
    (sign : signOf chars = (negative, digits)) (read : readNatural? digits = some n)
    (value : (if negative then -(n : Int) else n) = i.toInt) : readInt64? chars = some i := by
  have inside := And.intro i.minValue_le_toInt i.toInt_le
  simp only [readInt64?, sign, read, Option.bind_eq_bind, Option.bind_some, value, if_pos inside,
    Int64.ofInt_toInt]

inductive Spells (i : Int64) : List Char → Prop where
  | natural {n : Nat} (value : (n : Int) = i.toInt) : Spells i (Nat.toDigits 10 n)
  | negative {n : Nat} (value : -(n : Int) = i.toInt) : Spells i ('-' :: Nat.toDigits 10 n)

theorem spells (i : Int64) : Spells i (toString i.toInt).toList := by
  cases value : i.toInt with
  | ofNat n =>
    have text : (toString (Int.ofNat n)).toList = Nat.toDigits 10 n := Nat.toList_repr
    rw [text]
    exact .natural value.symm
  | negSucc n =>
    have text : (toString (Int.negSucc n)).toList = '-' :: Nat.toDigits 10 (n + 1) := by
      change ("-" ++ (n + 1).repr).toList = _
      rw [String.toList_append, Nat.toList_repr]
      rfl
    rw [text]
    exact .negative value.symm

theorem Spells.visible {i : Int64} {chars : List Char} (spells : Spells i chars) :
    ∀ c ∈ chars, Text.isBlank c = false := by
  have digits : ∀ n, ∀ c ∈ Nat.toDigits 10 n, Text.isBlank c = false :=
    fun n c member => Text.digitVisible (RawJson.decimalDigits n c member)
  cases spells with
  | natural => exact digits _
  | negative => exact List.forall_mem_cons.mpr ⟨by decide, digits _⟩

theorem Spells.read {i : Int64} {chars : List Char} (spells : Spells i chars) :
    readInt64? chars = some i := by
  cases spells with
  | natural value => exact readSigned (unsignedDigits _) (RawJson.naturalSpelled _) value
  | negative value => exact readSigned rfl (RawJson.naturalSpelled _) value

end Number

namespace Registry

variable {σ : Type}

theorem converterBetween {registry : Registry σ}
    (distinct : (registry.converters.map Converter.key).Nodup) (grown : registry.types.Grown)
    {converter : Converter σ} (member : converter ∈ registry.converters)
    (target : converter.target.index < registry.types.size)
    (source : converter.source.index < registry.types.size) :
    registry.converterFor? converter.target converter.source = some converter := by
  have own : ∀ tag : TypeTag, tag.index < registry.types.size →
      registry.types.distance? tag tag = some 0 := by
    intro tag registered
    rw [grown.distanceIff, ← List.head?_eq_getElem?]
    exact (grown.ascends tag registered).first
  have ranked : converter.rank? registry.types converter.target converter.source = some ⟨0, 0⟩ := by
    simp [Converter.rank?, own _ target, own _ source]
  have applies : converter.Applies registry.types converter.target converter.source := by
    by_contra never
    rw [← converter.rankNone, ranked] at never
    contradiction
  have picks := converterPicked distinct converter.target converter.source
  cases picked : registry.converterFor? converter.target converter.source with
  | none => exact absurd applies (picks.noneIff.mp picked converter member)
  | some best =>
    by_contra different
    obtain ⟨rank, further, -, far, ahead⟩ := (picks.nearest best picked).2.2 converter member
      (fun same => different (congrArg some same.symm)) applies
    cases ranked.symm.trans far
    simp at ahead

theorem convertsTo {registry : Registry σ} {host : σ} {value result : Value}
    {requested actual : TypeTag} {converter : Converter σ}
    (tagged : registry.types.tagOf? value = some actual) (other : actual ≠ requested)
    (picked : registry.converterFor? requested actual = some converter)
    (ran : converter.run host value requested registry.types = (some result, host)) :
    registry.convert host value requested = (result, host) := by
  simp only [convert, tagged, if_neg other, picked, ran, Option.getD_some]

variable [Host σ]

theorem Standard.toText {registry : Registry σ} (standard : registry.Standard) {actual : TypeTag}
    (registered : actual.index < registry.types.size) :
    registry.converterFor? .string actual = some Converter.display := by
  have order := standard.types.treeOrder
  have stringRegistered : TypeTag.string.index < registry.types.size :=
    Nat.lt_of_lt_of_le (by decide) standard.types.builtin.size
  cases picked : registry.converterFor? .string actual with
  | none =>
    have never := (converterPicked standard.distinct .string actual).noneIff.mp picked
      Converter.display
    have member : (Converter.display : Converter σ) ∈ registry.converters := by
      rw [standard.converters]
      simp [Converter.builtins, Converter.display]
    exact absurd ⟨TypeTable.assignableIff.mp (order.reflexive _ stringRegistered),
      TypeTable.assignableIff.mp (order.greatest _ registered)⟩ (never member)
  | some best =>
    obtain ⟨member, above, -⟩ := standard.picked picked
    have declared := Converter.builtinDeclared best member
    have target : best.target = .string :=
      (standard.types.aboveBuiltin (by decide) above).resolve_right declared.belowRoot
    rw [Converter.displayOnly member (declared.text (.inr target))]

end Registry

/- The values that are told from all others of their type by their text. -/
inductive Value.Spelled (types : TypeTable) : Value → Prop where
  | int (value : Int64) : Spelled types (.int value)
  | bool (value : Bool) : Spelled types (.bool value)
  | type {tag : TypeTag} (registered : tag.index < types.size) :
      Spelled types (.type (types.ref tag))

section Reading
variable {σ : Type} [Host σ]

theorem Value.Spelled.read {types : TypeTable} (grown : types.Grown) {value : Value}
    (spelled : value.Spelled types) (host : σ) :
    ∃ converter ∈ (Converter.builtins : List (Converter σ)),
      converter.source = .string ∧ types.tagOf? value = some converter.target ∧
      converter.run host (.string (value.display host)) converter.target types =
        (some value, host) := by
  cases spelled with
  | int value =>
    have text := Number.spells value
    have read : Converter.intOfText? (toString value.toInt) = some value := by
      rw [Converter.intOfText?, Text.trimVisible text.visible, text.read]
    refine ⟨_, .head _, rfl, rfl, ?_⟩
    change ((Converter.intOfText? (toString value.toInt)).map Value.int, host) = _
    rw [read]
    rfl
  | bool value =>
    have read : ∀ value : Bool,
        Converter.boolOfText? (if value then "true" else "false") = some value := by decide
    refine ⟨_, .tail _ (.tail _ (.head _)), rfl, rfl, ?_⟩
    change ((Converter.boolOfText? (if value then "true" else "false")).map Value.bool, host) = _
    rw [read]
    rfl
  | @type tag registered =>
    have found := (grown.inverse _ tag).mpr ⟨registered, rfl⟩
    have resolved : types.resolve? (types.name tag) = some (types.ref tag) := by
      rw [TypeTable.resolve?, found]
    refine ⟨_, .tail _ (.tail _ (.tail _ (.tail _ (.head _)))), rfl, rfl, ?_⟩
    change ((types.resolve? (types.name tag)).map Value.type, host) = _
    rw [resolved]
    rfl

theorem Registry.spelledValuesComeBack {registry : Registry σ} {trials : List TypeTable.Trial}
    (converters : registry.converters = Converter.builtins)
    (tried : TypeTable.Trials .builtin trials registry.types) (host : σ) {value : Value}
    (spelled : value.Spelled registry.types) :
    ∃ tag text, registry.types.tagOf? value = some tag ∧
      registry.convert host value .string = (.string text, host) ∧
      registry.convert host (.string text) tag = (value, host) := by
  have grown := tried.grown TypeTable.builtinGrown
  have standard : registry.Standard := ⟨converters, grown⟩
  obtain ⟨converter, member, source, tagged, ran⟩ := spelled.read grown host
  have declared := Converter.builtinDeclared converter member
  have registered := Nat.lt_of_lt_of_le declared.target grown.builtin.size
  have other : converter.target ≠ .string := fun same => declared.other (source.trans same.symm)
  have between := converterBetween standard.distinct grown (converters ▸ member) registered
    (source ▸ Nat.lt_of_lt_of_le (by decide) grown.builtin.size)
  rw [source] at between
  exact ⟨converter.target, value.display host, tagged,
    convertsTo tagged other (standard.toText registered) rfl,
    convertsTo rfl other.symm between ran⟩

theorem Registry.catIsNoCart :
    ∃ registry : Registry Scene,
      registry = Registry.initial.afterAll [.type "cat" none, .type "cart" none] ∧
      registry.types.find "cat" = [⟨⟨7⟩, "cat"⟩, ⟨⟨8⟩, "cart"⟩] ∧
      ∃ tag text, registry.types.tagOf? (.type ⟨⟨7⟩, "cat"⟩) = some tag ∧
        registry.convert Scene.empty (.type ⟨⟨7⟩, "cat"⟩) .string = (.string text, .empty) ∧
        registry.convert Scene.empty (.string text) tag = (.type ⟨⟨7⟩, "cat"⟩, .empty) := by
  let registry : Registry Scene := Registry.initial.afterAll [.type "cat" none, .type "cart" none]
  have tried := trialsMade (Registry.initial : Registry Scene)
    [.type "cat" none, .type "cart" none]
  have spelled : Value.Spelled registry.types (.type ⟨⟨7⟩, "cat"⟩) :=
    @Value.Spelled.type registry.types ⟨7⟩ (by decide)
  exact ⟨registry, rfl, by decide, spelledValuesComeBack rfl tried .empty spelled⟩

end Reading
end LiveConsole
