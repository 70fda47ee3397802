import LiveConsole.Proofs.Evaluation.Fault
import LiveConsole.Proofs.Evaluation.Refusal

/-! The span of the token that an error names. A token that was typed is pointed at where it stands.
But the command of an operator has a name that nobody typed, and a fault of an operand is reported
with the operand's text; both are put at the operator's place, where the line may be too short. -/
namespace LiveConsole
open Token (Becomes)
open String.Pos.Raw (IsValid)

namespace Token

structure InLine (source : String) (t : Token) : Prop where
  starts : IsValid source ⟨t.position⟩
  stops : IsValid source ⟨t.stop⟩
  inside : t.stop ≤ source.utf8ByteSize

theorem inLineIff {source : String} {t : Token} (starts : IsValid source ⟨t.position⟩) :
    t.InLine source ↔ IsValid source ⟨t.stop⟩ :=
  ⟨InLine.stops, fun stops => ⟨starts, stops, stops.le_rawEndPos⟩⟩

theorem typedInLine {symbols : Symbols} {source : String} {t : Token}
    (typed : t.lexeme ∈ Lexeme.scan symbols source) : t.InLine source := by
  have covers := Lexeme.scanCovers symbols 0 source.toList
  obtain ⟨before, after, split, place⟩ := covers.located t.lexeme typed
  have spans := Lexeme.spansOfLocated (covers.filled t.lexeme typed) split (by simpa using place)
  exact (inLineIff spans.starts).mpr spans.stops

theorem Becomes.typedOrMade {original token : Token} (becomes : Becomes original token) :
    token.lexeme = original.lexeme ∨ ∃ name ∈ [concatenationName, indexName, propertyName],
      token = .synthetic name original.position := by
  cases becomes with
  | itself operand => exact .inl rfl
  | unclosed opens => exact .inl rfl
  | closed opens => exact .inr ⟨indexName, by simp, rfl⟩
  | command operator =>
    unfold Token.operator
    split
    · exact .inr ⟨concatenationName, by simp, rfl⟩
    · exact .inr ⟨propertyName, by simp, rfl⟩
    · exact .inl rfl

theorem bareInLine {source : String} {t : Token} {kind : LexemeKind} {text : String}
    {position : Nat} (starts : IsValid source ⟨position⟩)
    (bare : t.lexeme = .bare kind text position) :
    t.InLine source ↔ IsValid source ⟨position + t.value.utf8ByteSize⟩ := by
  have place : t.position = position := congrArg Lexeme.position bare
  have stop : t.stop = position + t.value.utf8ByteSize := by
    simp [Token.stop, Token.value, bare, Lexeme.stop, Lexeme.text, Lexeme.bare]
  rw [inLineIff (place ▸ starts), stop]

end Token

namespace Engine

variable {σ : Type} [Host σ]

inductive Borrowed (original token named : Token) (error : CommandError) : Prop where
  | operator {name : String} (itself : named = token)
      (internal : name ∈ [concatenationName, indexName, propertyName])
      (made : token = .synthetic name original.position)
  | operand {fault : OperandFault} (reports : error = .ofOperand fault named.value token)
      (nameless : fault = .emptyVariableName → named.value = "")

/- Where the line fails, and what of it the named token spans: the text of the typed token, or as
much as the borrowed text is long, if the line goes on for so long. -/
structure PointsAt (engine : Engine σ) (source : String) (error : CommandError)
    (named token original : Token) : Prop where
  fails : FailsAt engine source token error
  typed : original ∈ Token.ofSource engine.symbols source
  stands : Becomes original token
  inLine : original.InLine source
  place : named.position = original.position
  text : named.lexeme = original.lexeme ∧ named.InLine source ∨
    Borrowed original token named error ∧
      (named.InLine source ↔ IsValid source ⟨original.position + named.value.utf8ByteSize⟩)

theorem typedSpansAreInLine {engine : Engine σ} {source : String} {error : CommandError}
    (failed : (engine.run source).outcome = .error error) {named : Token}
    (carries : error.token? = some named) :
    ∃ token original, PointsAt engine source error named token original := by
  rcases runFailed failed with tokenless | ⟨tokens, compiled, stopped⟩
  · rw [carries] at tokenless
    contradiction
  obtain ⟨front, token, back, reached, rfl, ok, fails⟩ := stepsFailed stopped
  have member : token ∈ front ++ token :: back := List.mem_append_right _ List.mem_cons_self
  obtain ⟨original, typed, stands⟩ := Rpn.arrangedStands compiled member
  have scanned := Token.lexemeScanned typed
  have inLine := Token.typedInLine scanned
  refine ⟨token, original, ⟨front, back, reached, compiled, ok, fails⟩, typed, stands, inLine,
    (stepPlace fails carries).trans stands.position, ?_⟩
  cases stepBlames _ _ token error fails with
  | itself itself =>
    obtain rfl : token = named := Option.some.inj (itself.symm.trans carries)
    rcases stands.typedOrMade with same | ⟨name, internal, made⟩
    · exact .inl ⟨same, Token.typedInLine (same ▸ scanned)⟩
    · exact .inr ⟨.operator rfl internal made,
        Token.bareInLine inLine.starts (congrArg Token.lexeme made)⟩
  | operand fault detail nameless =>
    cases carries
    have bare : (Token.ofLexeme (.bare .string detail token.position)).lexeme =
        .bare .string detail original.position := by
      rw [← stands.position]
      rfl
    exact .inr ⟨.operand rfl nameless, Token.bareInLine inLine.starts bare⟩

theorem bracketHasALongName :
    ((plain Scene.empty).run "'abc'['x']").outcome =
        .error (.invalidParameter "index" "int" (.synthetic indexName 5)) ∧
      ∃ token original, PointsAt (plain Scene.empty) "'abc'['x']"
        (.invalidParameter "index" "int" (.synthetic indexName 5)) (.synthetic indexName 5)
        token original := by
  have failed : ((plain Scene.empty).run "'abc'['x']").outcome =
    .error (.invalidParameter "index" "int" (.synthetic indexName 5)) := by cbv
  exact ⟨failed, typedSpansAreInLine failed rfl⟩

/- What is indexed here has a text of four bytes, but from the bracket on there are only three. -/
theorem operandEndsBeyondTheLine :
    ∃ error named, ((plain Scene.empty).run "\x7btrue\x7d[0]").outcome = .error error ∧
      error.token? = some named ∧ ¬ named.InLine "\x7btrue\x7d[0]" := by
  have failed : ((plain Scene.empty).run "\x7btrue\x7d[0]").outcome =
    .error (.operation .notIndexable (.ofLexeme (.bare .string "true" 6))) := by cbv
  exact ⟨_, _, failed, rfl, fun inLine => absurd inLine.inside (by decide)⟩

end Engine
end LiveConsole
