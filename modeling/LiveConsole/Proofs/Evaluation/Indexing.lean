import LiveConsole.Evaluation.Builtins
import Mathlib.Data.List.Basic

/-! Places and lengths. A list has its items in places counted from zero and a string has its
characters there, each as a string of its own. The length of such a value is the first place at
which nothing stands, and every place from there on, like every negative one, is out of range. -/
namespace LiveConsole.Builtin

theorem placeIff {place : Int64} {count : Nat} :
    place? place = some count ↔ place.toInt = count := Int.mem_toNat?

theorem countExact {count : Nat} (fits : (count : Int) ≤ Int64.maxValue.toInt) :
    (Int64.ofNat count).toInt = count := by
  rw [Int64.toInt_maxValue] at fits
  exact Int64.toInt_ofNat_of_lt (by omega)

theorem countedIff {count : Nat} {length : Int64} :
    counted? count = some (.int length) ↔ length.toInt = count := by
  unfold counted?
  constructor
  · intro counted
    split at counted
    · rename_i fits
      cases counted
      exact countExact fits
    · contradiction
  · intro same
    have fits : (count : Int) ≤ Int64.maxValue.toInt := same ▸ length.toInt_le
    rw [if_pos fits, Int64.toInt_inj.mp ((countExact fits).trans same.symm)]

variable {σ : Type} [Host σ]

def indexedAt (engine : Engine σ) (operator : Token) (value : Value) (place : Int64) :
    Run σ Value :=
  Builtin.index.run engine operator [value, .int place]

def lengthOf (engine : Engine σ) (operator : Token) (value : Value) : Run σ Value :=
  Builtin.property.run engine operator [value, .string "length"]

def charactersOf (text : String) : List Value := text.toList.map fun c => .string c.toString

theorem charactersJoined (host : σ) (text : String) :
    concatenated host (charactersOf text) = text := by
  have texts : (charactersOf text).map (fun value =>
      if value.isNull then "" else value.display host) = text.toList.map Char.toString := by
    rw [charactersOf, List.map_map]
    refine List.map_congr_left fun c _ => ?_
    simp [Value.isNull, Value.display]
  rw [concatenated, texts, ← String.toList_inj, String.toList_join, List.flatMap_map]
  simp [Char.toString, String.toList_singleton]

inductive Placed : Value → List Value → Prop where
  | list (items : List Value) : Placed (.list items) items
  | string (text : String) : Placed (.string text) (charactersOf text)

/- That the places of a value are those below its length, and hold its parts in order. A length is
given for as many parts as a whole number can count. -/
structure Measures (engine : Engine σ) (operator : Token) (value : Value) (parts : List Value) :
    Prop where
  answers : (parts.length : Int) ≤ Int64.maxValue.toInt →
    lengthOf engine operator value = .ok (.int (.ofNat parts.length)) engine
  counts : ∀ length, (lengthOf engine operator value).outcome = .ok (.int length) ↔
    length.toInt = parts.length
  reaches : ∀ length, (lengthOf engine operator value).outcome = .ok (.int length) →
    ∀ place, (∃ part, (indexedAt engine operator value place).outcome = .ok part) ↔
      0 ≤ place ∧ place < length
  inOrder : ∀ length, (lengthOf engine operator value).outcome = .ok (.int length) →
    (List.range length.toInt.toNat).map
      (fun place => indexedAt engine operator value (.ofNat place)) = parts.map (.ok · engine)
  outside : ∀ place, (∃ part, indexedAt engine operator value place = .ok part engine) ∨
    indexedAt engine operator value place =
      .fail (.ofOperand .indexOutOfRange (toString place.toInt) operator) engine

section Parts
variable {value : Value} {parts : List Value}

theorem Placed.element (placed : Placed value parts) (host : σ) (operator : Token)
    (place : Int64) :
    Builtin.element host operator value place =
      match (place? place).bind (parts[·]?) with
      | some part => .ok part
      | none => .error (.ofOperand .indexOutOfRange (toString place.toInt) operator) := by
  unfold Builtin.element
  cases placed with
  | list =>
    dsimp only
    cases (place? place).bind (parts[·]?) <;> rfl
  | string text =>
    have texts : ((place? place).bind fun i => text.toList[i]?.map fun c =>
        Value.string c.toString) = (place? place).bind ((charactersOf text)[·]?) := by
      simp [charactersOf]
    dsimp only
    rw [texts]
    cases (place? place).bind ((charactersOf text)[·]?) <;> rfl

theorem Placed.found (placed : Placed value parts) (engine : Engine σ) (operator : Token)
    {place : Int64} {count : Nat} {part : Value} (here : place.toInt = count)
    (stands : parts[count]? = some part) :
    indexedAt engine operator value place = .ok part engine := by
  change (⟨Builtin.element engine.host operator value place, engine, []⟩ : Run σ Value) = _
  rw [placed.element, placeIff.mpr here, Option.bind_some, stands]
  rfl

theorem Placed.inside (placed : Placed value parts) (engine : Engine σ) (operator : Token)
    {place : Int64} (within : 0 ≤ place.toInt ∧ place.toInt < parts.length) :
    ∃ part, indexedAt engine operator value place = .ok part engine := by
  obtain ⟨count, same⟩ := Int.eq_ofNat_of_zero_le within.1
  have stands := List.getElem?_eq_getElem (l := parts) (i := count) (by omega)
  exact ⟨_, placed.found engine operator same stands⟩

theorem Placed.outside (placed : Placed value parts) (engine : Engine σ) (operator : Token)
    {place : Int64} (beyond : ¬ (0 ≤ place.toInt ∧ place.toInt < parts.length)) :
    indexedAt engine operator value place =
      .fail (.ofOperand .indexOutOfRange (toString place.toInt) operator) engine := by
  have nothing : (place? place).bind (parts[·]?) = none := by
    refine Option.bind_eq_none_iff.mpr fun count counted => List.getElem?_eq_none ?_
    have same := placeIff.mp counted
    omega
  change (⟨Builtin.element engine.host operator value place, engine, []⟩ : Run σ Value) = _
  rw [placed.element, nothing]
  rfl

theorem Placed.insideIff (placed : Placed value parts) (engine : Engine σ) (operator : Token)
    (place : Int64) :
    (∃ part, (indexedAt engine operator value place).outcome = .ok part) ↔
      0 ≤ place.toInt ∧ place.toInt < parts.length := by
  constructor
  · rintro ⟨part, ok⟩
    by_contra beyond
    rw [placed.outside engine operator beyond] at ok
    contradiction
  · intro within
    obtain ⟨part, ok⟩ := placed.inside engine operator within
    exact ⟨part, congrArg Run.outcome ok⟩

theorem Placed.lengthRead (placed : Placed value parts) (engine : Engine σ) (operator : Token) :
    lengthOf engine operator value =
      match counted? parts.length with
      | some count => .ok count engine
      | none => .fail (.ofOperand .unknownProperty "length" operator) engine := by
  have read : propertyOf? engine.types engine.host value "length" = counted? parts.length := by
    cases placed with
    | list => rfl
    | string text => simp [propertyOf?, charactersOf, String.length_toList]
  change reading engine operator value (.string "length") = _
  cases counted : counted? parts.length with
  | some count => simp only [reading, Value.display, read, counted]
  | none => simp only [reading, Value.display, read, counted]

theorem Placed.lengthIff (placed : Placed value parts) (engine : Engine σ) (operator : Token)
    (length : Int64) :
    (lengthOf engine operator value).outcome = .ok (.int length) ↔
      length.toInt = parts.length := by
  rw [placed.lengthRead, ← countedIff]
  cases counted? parts.length <;> simp [Run.ok, Run.fail]

theorem Placed.inOrder (placed : Placed value parts) (engine : Engine σ) (operator : Token)
    {length : Int64} (size : length.toInt = parts.length) :
    (List.range length.toInt.toNat).map
      (fun place => indexedAt engine operator value (.ofNat place)) =
        parts.map (.ok · engine) := by
  have bound := length.toInt_le
  refine List.ext_getElem (by simp [size]) fun count left right => ?_
  rw [List.length_map] at right
  have here : (Int64.ofNat count).toInt = count := countExact (by omega)
  rw [List.getElem_map, List.getElem_map, List.getElem_range]
  exact placed.found engine operator here (List.getElem?_eq_getElem right)

theorem Placed.measures (placed : Placed value parts) (engine : Engine σ) (operator : Token) :
    Measures engine operator value parts where
  answers fits := by rw [placed.lengthRead, counted?, if_pos fits]
  counts := placed.lengthIff engine operator
  reaches length read place := by
    have size := (placed.lengthIff engine operator length).mp read
    rw [placed.insideIff, Int64.le_iff_toInt_le, Int64.lt_iff_toInt_lt, size]
    rfl
  inOrder length read :=
    placed.inOrder engine operator ((placed.lengthIff engine operator length).mp read)
  outside place := by
    by_cases within : 0 ≤ place.toInt ∧ place.toInt < parts.length
    · exact .inl (placed.inside engine operator within)
    · exact .inr (placed.outside engine operator within)

end Parts

theorem placesReachLength (engine : Engine σ) (operator : Token) :
    (∀ items : List Value, Measures engine operator (.list items) items) ∧
    ∀ text : String, Measures engine operator (.string text) (charactersOf text) ∧
      concatenated engine.host (charactersOf text) = text :=
  ⟨fun items => (Placed.list items).measures engine operator,
    fun text => ⟨(Placed.string text).measures engine operator, charactersJoined _ text⟩⟩

end LiveConsole.Builtin
