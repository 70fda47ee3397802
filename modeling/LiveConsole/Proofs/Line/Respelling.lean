import LiveConsole.Proofs.Line.Occurrence
import LiveConsole.Proofs.Line.Relocation
import Mathlib

/-! A line spelled in other characters, its symbols with it. No character has a meaning beyond what
the symbols, white space, words and digits give it, so such a line is cut, arranged and refused as
the first one was. -/
namespace LiveConsole
open Text
open String (utf8Len)

/- Characters exchanged for others: none for two, and each for one of its class. -/
structure Respelling (f : Char → Char) : Prop where
  injective : Function.Injective f
  blank : ∀ c, isBlank (f c) = isBlank c
  word : ∀ c, isWord (f c) = isWord c
  digit : ∀ c, (f c).isDigit = c.isDigit

theorem swapRespelling {a b : Char} (blank : isBlank a = isBlank b) (word : isWord a = isWord b)
    (digit : a.isDigit = b.isDigit) : Respelling (Equiv.swap a b) := by
  have kept (p : Char → Bool) (same : p a = p b) (c : Char) : p (Equiv.swap a b c) = p c := by
    rw [Equiv.swap_apply_def]
    split
    · rename_i isFirst
      rw [isFirst, same]
    · split
      · rename_i isSecond
        rw [isSecond, same]
      · rfl
  exact ⟨(Equiv.swap a b).injective, kept isBlank blank, kept isWord word, kept Char.isDigit digit⟩

def Symbols.respelled (f : Char → Char) (symbols : Symbols) : Symbols where
  variableSigil := f symbols.variableSigil
  globalSigil := f symbols.globalSigil
  groupOpen := f symbols.groupOpen
  groupClose := f symbols.groupClose
  indexOpen := f symbols.indexOpen
  indexClose := f symbols.indexClose
  concatenation := f symbols.concatenation
  quote := f symbols.quote
  property := symbols.property.map f

def SamePlace (f : Char → Char) (text : List Char) (place other : Nat) : Prop :=
  ∃ before after, text = before ++ after ∧ place = utf8Len before ∧ other = utf8Len (before.map f)

namespace Lexeme

def respelled (f : Char → Char) (position : Nat) (l : Lexeme) : Lexeme :=
  ⟨l.kind, l.value.map f, position, l.lead.map f, l.trail.map f⟩

theorem respelledText (f : Char → Char) (position : Nat) (l : Lexeme) :
    (l.respelled f position).text.toList = l.text.toList.map f := by
  simp [respelled, text]

section
variable {f : Char → Char} (respelling : Respelling f) (symbols : Symbols)
include respelling

theorem startsPropertyRespelled (chars : List Char) :
    (symbols.respelled f).startsProperty (chars.map f) = symbols.startsProperty chars := by
  have filled : (symbols.property.map f).isEmpty = symbols.property.isEmpty := by
    rw [Bool.eq_iff_iff, String.isEmpty_iff, String.isEmpty_iff, String.map_eq_empty]
  have begins : (symbols.property.map f).toList.isPrefixOf (chars.map f) =
      symbols.property.toList.isPrefixOf chars := by
    rw [Bool.eq_iff_iff, List.isPrefixOf_iff_prefix, List.isPrefixOf_iff_prefix, String.toList_map,
      List.prefix_map_iff_of_injective respelling.injective]
  rw [Symbols.startsProperty, Symbols.startsProperty, ← filled, ← begins]
  rfl

theorem wordRespelled (kind : LexemeKind) (lead : String) (position place : Nat)
    (chars : List Char) :
    word kind (lead.map f) place (chars.map f) =
      ((word kind lead position chars).1.respelled f place,
        (word kind lead position chars).2.map f) := by
  have same : isWord ∘ f = isWord := funext respelling.word
  simp [word, respelled, List.takeWhile_map, List.dropWhile_map, same, ← String.toList_inj]

theorem quotationRespelled (quote : Char) (position place : Nat) (chars : List Char) :
    quotation (f quote) place (chars.map f) =
      ((quotation quote position chars).1.respelled f place,
        (quotation quote position chars).2.map f) := by
  have same : (· != f quote) ∘ f = (· != quote) := by
    funext c
    rw [Function.comp_apply, Bool.eq_iff_iff, bne_iff_ne, bne_iff_ne, ne_eq,
      respelling.injective.eq_iff]
  unfold quotation
  rw [List.takeWhile_map, List.dropWhile_map, same]
  cases chars.dropWhile (· != quote) <;> simp [respelled, ← String.toList_inj]

theorem singleKindRespelled (c : Char) :
    singleKind (symbols.respelled f) (f c) = singleKind symbols c := by
  simp only [singleKind, Symbols.respelled, respelling.injective.eq_iff, respelling.word]

theorem nextRespelled (position place : Nat) (c : Char) (rest : List Char) :
    next (symbols.respelled f) place (f c) (rest.map f) =
      ((next symbols position c rest).1.respelled f place,
        (next symbols position c rest).2.map f) := by
  have starts := startsPropertyRespelled respelling symbols (c :: rest)
  have sigil : (f c).toString = c.toString.map f := by simp [← String.toList_inj]
  have variableSame : f c = (symbols.respelled f).variableSigil ↔ c = symbols.variableSigil :=
    respelling.injective.eq_iff
  have globalSame : f c = (symbols.respelled f).globalSigil ↔ c = symbols.globalSigil :=
    respelling.injective.eq_iff
  have quoteSame : f c = (symbols.respelled f).quote ↔ c = symbols.quote :=
    respelling.injective.eq_iff
  rw [List.map_cons] at starts
  unfold next
  simp only [starts, variableSame, globalSame, quoteSame, singleKindRespelled respelling, sigil]
  split
  · simp [bare, respelled, Symbols.respelled]
  · split
    · exact wordRespelled respelling ..
    · split
      · exact wordRespelled respelling ..
      · split
        · exact quotationRespelled respelling ..
        · split
          · have bare := wordRespelled respelling .command "" position place (c :: rest)
            rwa [String.map_eq_empty.mpr rfl] at bare
          · simp [bare, respelled]

structure Respells (f : Char → Char) (source : List Char) (l other : Lexeme) : Prop where
  image : other = l.respelled f other.position
  place : SamePlace f source l.position other.position

theorem scanRespelled {source before chars : List Char} (joined : source = before ++ chars)
    {position : Nat} (start : position = utf8Len before) :
    List.Forall₂ (Respells f source) (scanFrom symbols position chars)
      (scanFrom (symbols.respelled f) (utf8Len (before.map f)) (chars.map f)) := by
  fun_induction scanFrom symbols position chars generalizing before with
  | case1 position => simp [scanFrom]
  | case2 position c rest isSpace ih =>
    have follows : source = (before ++ [c]) ++ rest := by simpa using joined
    have later := ih follows (by simp [start])
    rw [List.map_cons, scanFrom, if_pos ((respelling.blank c).trans isSpace)]
    simpa using later
  | case3 position c rest isSpace step =>
    rename_i ih
    have cut : Cut position (c :: rest) step := nextCut symbols position c rest
    have image := nextRespelled respelling symbols position (utf8Len (before.map f)) c rest
    have stop : step.1.stop = utf8Len (before ++ step.1.text.toList) := by
      rw [stopEq, cut.position, start, String.utf8Len_append]
    have stopImage : (step.1.respelled f (utf8Len (before.map f))).stop =
        utf8Len ((before ++ step.1.text.toList).map f) := by
      rw [stopEq, respelledText, List.map_append, String.utf8Len_append]
      rfl
    have follows : source = (before ++ step.1.text.toList) ++ step.2 := by
      rw [joined, List.append_assoc, cut.joined]
    rw [List.map_cons, scanFrom, if_neg (by rwa [respelling.blank]), image]
    refine .cons ⟨rfl, before, _, joined, cut.position.trans start, rfl⟩ ?_
    rw [stopImage]
    exact ih follows stop

end

end Lexeme

namespace Token

def operatorNames : List String := [concatenationName, indexName, propertyName]

/- A token and the one in its place on the respelled line. What stands on the line is spelled in the
other characters; the commands that operators become go by their own names on both lines. -/
structure Respells (f : Char → Char) (symbols : Symbols) (source : String) (t other : Token) :
    Prop where
  kind : other.kind = t.kind
  lexemeKind : other.lexeme.kind = t.lexeme.kind
  priority : other.priority = t.priority
  place : SamePlace f source.toList t.position other.position
  typed : t ∈ ofSource symbols source → other.lexeme = t.lexeme.respelled f other.position
  named : t ∉ ofSource symbols source → ∃ name ∈ operatorNames,
    t = .synthetic name t.position ∧ other = .synthetic name other.position

section
variable {f : Char → Char} (respelling : Respelling f) {symbols : Symbols} {source : String}

theorem Respells.inside {t other : Token} (respells : Respells f symbols source t other)
    (stands : t.kind ≠ .command) : t ∈ ofSource symbols source := by
  by_contra outside
  obtain ⟨name, -, synthetic, -⟩ := respells.named outside
  exact stands (congrArg Token.kind synthetic)

theorem Respells.command {t other : Token} (respells : Respells f symbols source t other)
    (stands : t.kind ≠ .command) {name : String} (own : name ∈ operatorNames) :
    Respells f symbols source (.synthetic name t.position) (.synthetic name other.position) where
  kind := rfl
  lexemeKind := rfl
  priority := rfl
  place := respells.place
  typed := fun inside => by
    have itself := (sourceApart symbols source).alone (respells.inside stands) inside rfl
    exact absurd (congrArg Token.kind itself) stands
  named := fun _ => ⟨name, own, rfl, rfl⟩

theorem respellsAlike : Alike (Respells f symbols source) where
  kind := Respells.kind
  priority := Respells.priority
  operator := by
    intro t other respells role
    unfold operator
    rw [respells.kind]
    split
    · rename_i kind
      exact respells.command (by simp [kind]) (by decide)
    · rename_i kind
      exact respells.command (by simp [kind]) (by decide)
    · exact respells
  index := by
    intro t other respells role
    have stands : t.kind ≠ .command := by simp [kindOfOpens role, Bracket.opener]
    exact respells.command stands (by decide)

include respelling

theorem sourceRespelled (symbols : Symbols) (source : String) :
    List.Forall₂ (Respells f symbols source) (ofSource symbols source)
      (ofSource (symbols.respelled f) (source.map f)) := by
  have scanned : List.Forall₂ (Lexeme.Respells f source.toList) (Lexeme.scan symbols source)
      (Lexeme.scan (symbols.respelled f) (source.map f)) := by
    unfold Lexeme.scan
    rw [String.toList_map]
    have start : 0 = utf8Len [] := rfl
    exact Lexeme.scanRespelled respelling symbols (List.nil_append source.toList).symm start
  have same (l other : Lexeme) (respells : Lexeme.Respells f source.toList l other) :
      SameRole l other := by
    rw [respells.image]
    refine ⟨rfl, fun _ => ?_⟩
    cases letters : l.value.toList <;> simp [Lexeme.respelled, letters, respelling.digit]
  have follow := ofLexemesFollow same scanned .lineStart
  have inside := (List.forall₂_and_left _ _).mpr ⟨fun t member => member, follow⟩
  refine inside.imp fun t other ⟨member, follows⟩ => ?_
  have image := follows.lexeme.image
  exact ⟨follows.kind, by rw [image]; rfl, follows.priority, follows.lexeme.place, fun _ => image,
    fun outside => absurd member outside⟩

end

end Token

namespace Rpn

theorem orderIsRespelled {f : Char → Char} (respelling : Respelling f) (symbols : Symbols)
    (source : String) :
    Option.Rel (List.Forall₂ (Token.Respells f symbols source)) (ofSource? symbols source)
      (ofSource? (symbols.respelled f) (source.map f)) :=
  ofTokensRelated Token.respellsAlike (Token.sourceRespelled respelling symbols source)

theorem euroLineIsRespelled :
    ∃ arranged image, ofSource? .standard "$a.'$'" = some arranged ∧
      ofSource? (Symbols.standard.respelled (Equiv.swap '$' '€')) "€a.'€'" = some image ∧
      List.Forall₂ (Token.Respells (Equiv.swap '$' '€') .standard "$a.'$'") arranged image := by
  have respelling : Respelling (Equiv.swap '$' '€') :=
    swapRespelling (by decide) (by decide +kernel) (by decide)
  have respelled := orderIsRespelled respelling .standard "$a.'$'"
  have spelled : "$a.'$'".map (Equiv.swap '$' '€') = "€a.'€'" := by
    rw [← String.toList_inj, String.toList_map]
    decide
  have order : ofSource? .standard "$a.'$'" = some [.ofLexeme ⟨.variable, "a", 0, "$", ""⟩,
      .ofLexeme ⟨.string, "$", 3, "'", "'"⟩, .synthetic concatenationName 2] := by cbv
  rw [order, spelled] at respelled
  generalize ofSource? _ "€a.'€'" = found at respelled
  cases respelled with
  | some respelled => exact ⟨_, _, order, rfl, respelled⟩

end Rpn
end LiveConsole
