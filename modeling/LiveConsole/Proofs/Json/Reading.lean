import LiveConsole.Proofs.Json.Pieces

/-! Documents read back. The pieces of a document are put together into what it was: item after item
onto an open array, and member after member onto an open object. -/
namespace LiveConsole

namespace RawJson

theorem assembleStep (frames : List Frame) (await : Await) (piece : Piece) (rest : List Piece) :
    assemble? frames await (piece :: rest) =
      (advance? frames await piece).bind fun (frames, await) => assemble? frames await rest := by
  rw [assemble?]

theorem intercalateFlat {α : Type} (separator : α) (first : List α) (parts : List (List α)) :
    [separator].intercalate (first :: parts) = first ++ parts.flatMap (separator :: ·) := by
  induction parts generalizing first with
  | nil => simp
  | cons second parts ih => rw [List.intercalate_cons_cons, ih]; simp

def Assembles (pieces : List Piece) (value : RawJson) : Prop :=
  ∃ first later, pieces = first :: later ∧ first ≠ .closeArray ∧ ∀ frames more,
    (startValue? frames first).bind
        (fun (frames, await) => assemble? frames await (later ++ more)) =
      assemble? frames (.separator value) more

theorem Assembles.value {pieces : List Piece} {value : RawJson} (built : Assembles pieces value)
    (frames : List Frame) (more : List Piece) :
    assemble? frames .value (pieces ++ more) = assemble? frames (.separator value) more := by
  obtain ⟨first, later, rfl, -, starts⟩ := built
  rw [List.cons_append, assembleStep, ← starts frames more]
  cases frames <;> rfl

theorem Assembles.item {pieces : List Piece} {value : RawJson} (built : Assembles pieces value)
    (frames : List Frame) (more : List Piece) :
    assemble? frames .itemOrClose (pieces ++ more) = assemble? frames (.separator value) more := by
  obtain ⟨first, later, rfl, opens, starts⟩ := built
  rw [List.cons_append, assembleStep, ← starts frames more, advance?]
  exact fun _ _ _ => opens

theorem itemsAssemble {parts : List (List Piece)} {values : List RawJson}
    (built : List.Forall₂ Assembles parts values) (value : RawJson) (done : List RawJson)
    (outer : List Frame) (more : List Piece) :
    assemble? (.array done :: outer) (.separator value)
        (parts.flatMap (.comma :: ·) ++ .closeArray :: more) =
      assemble? outer (.separator (.array (done.reverse ++ value :: values))) more := by
  induction built generalizing value done with
  | nil =>
    have closes : assemble? (.array done :: outer) (.separator value) (.closeArray :: more) =
        assemble? outer (.separator (.array (value :: done).reverse)) more := by rfl
    simpa using closes
  | @cons part next parts values first tail ih =>
    have comma (rest : List Piece) :
        assemble? (.array done :: outer) (.separator value) (.comma :: rest) =
          assemble? (.array (value :: done) :: outer) .value rest := by rfl
    rw [List.flatMap_cons, List.cons_append, List.cons_append, comma, List.append_assoc,
      first.value, ih]
    simp

theorem arrayAssembles {parts : List (List Piece)} {values : List RawJson}
    (built : List.Forall₂ Assembles parts values) :
    Assembles (.openArray :: ([Piece.comma].intercalate parts ++ [.closeArray]))
      (.array values) := by
  refine ⟨.openArray, _, rfl, by simp, fun frames more => ?_⟩
  change assemble? (.array [] :: frames) .itemOrClose _ = _
  cases built with
  | nil => rfl
  | cons first tail =>
    rw [intercalateFlat, List.append_assoc, List.append_assoc, first.item]
    exact itemsAssemble tail _ [] frames more

def AssemblesMember (pieces : List Piece) (member : List Char × RawJson) : Prop :=
  ∃ valuePieces, pieces = .string member.1 :: .colon :: valuePieces ∧ Assembles valuePieces member.2

theorem AssemblesMember.member {pieces : List Piece} {member : List Char × RawJson}
    (built : AssemblesMember pieces member) {await : Await}
    (named : await = .name ∨ await = .nameOrClose)
    (done : List (List Char × RawJson)) (previous : List Char) (outer : List Frame)
    (more : List Piece) :
    assemble? (.object done previous :: outer) await (pieces ++ more) =
      assemble? (.object done member.1 :: outer) (.separator member.2) more := by
  obtain ⟨valuePieces, rfl, value⟩ := built
  rw [← value.value]
  rcases named with rfl | rfl <;> rfl

theorem membersAssemble {parts : List (List Piece)} {members : List (List Char × RawJson)}
    (built : List.Forall₂ AssemblesMember parts members) (member : List Char × RawJson)
    (done : List (List Char × RawJson)) (outer : List Frame) (more : List Piece) :
    assemble? (.object done member.1 :: outer) (.separator member.2)
        (parts.flatMap (.comma :: ·) ++ .closeObject :: more) =
      assemble? outer (.separator (.object (done.reverse ++ member :: members))) more := by
  induction built generalizing member done with
  | nil =>
    have closes : assemble? (.object done member.1 :: outer) (.separator member.2)
        (.closeObject :: more) =
          assemble? outer (.separator (.object (member :: done).reverse)) more := by rfl
    simpa using closes
  | @cons part next parts members first tail ih =>
    have comma (rest : List Piece) :
        assemble? (.object done member.1 :: outer) (.separator member.2) (.comma :: rest) =
          assemble? (.object (member :: done) member.1 :: outer) .name rest := by rfl
    rw [List.flatMap_cons, List.cons_append, List.cons_append, comma, List.append_assoc,
      first.member (.inl rfl), ih]
    simp

theorem objectAssembles {parts : List (List Piece)} {members : List (List Char × RawJson)}
    (built : List.Forall₂ AssemblesMember parts members) :
    Assembles (.openObject :: ([Piece.comma].intercalate parts ++ [.closeObject]))
      (.object members) := by
  refine ⟨.openObject, _, rfl, by simp, fun frames more => ?_⟩
  change assemble? (.object [] [] :: frames) .nameOrClose _ = _
  cases built with
  | nil => rfl
  | cons first tail =>
    rw [intercalateFlat, List.append_assoc, List.append_assoc, first.member (.inr rfl)]
    exact membersAssemble tail _ [] frames more

end RawJson

namespace Json
open RawJson (Assembles AssemblesMember spelling)

mutual

def raw : Json → RawJson
  | .null => .null
  | .bool value => .bool value
  | .number literal => .number literal.toList
  | .string text => .string (spelling text)
  | .array items => .array (rawItems items)
  | .object members => .object (rawMembers members)

def rawItems : List Json → List RawJson
  | [] => []
  | item :: rest => raw item :: rawItems rest

def rawMembers : List (String × Json) → List (List Char × RawJson)
  | [] => []
  | (name, value) :: rest => (spelling name, raw value) :: rawMembers rest

end

mutual

theorem piecesAssemble : ∀ json : Json, Assembles (pieces json) (raw json)
  | .null => ⟨_, [], rfl, by simp, fun _ _ => rfl⟩
  | .bool _ => ⟨_, [], rfl, by simp, fun _ _ => rfl⟩
  | .number _ => ⟨_, [], rfl, by simp, fun _ _ => rfl⟩
  | .string _ => ⟨_, [], rfl, by simp, fun _ _ => rfl⟩
  | .array items => RawJson.arrayAssembles (itemPiecesAssemble items)
  | .object members => RawJson.objectAssembles (memberPiecesAssemble members)

theorem itemPiecesAssemble : ∀ items : List Json,
    List.Forall₂ Assembles (itemPieces items) (rawItems items)
  | [] => .nil
  | item :: rest => .cons (piecesAssemble item) (itemPiecesAssemble rest)

theorem memberPiecesAssemble : ∀ members : List (String × Json),
    List.Forall₂ AssemblesMember (memberPieces members) (rawMembers members)
  | [] => .nil
  | (_, value) :: rest => .cons ⟨_, rfl, piecesAssemble value⟩ (memberPiecesAssemble rest)

end

theorem readPretty {json : Json} (legible : Legible json) :
    RawJson.read? json.pretty = some json.raw := by
  have cut := indentedReads 0 json legible [] (fun _ absent => nomatch absent)
  have empty : RawJson.pieces? [] = some [] := by rw [RawJson.pieces?]
  rw [CutBefore, List.append_nil, empty] at cut
  rw [RawJson.read?, pretty, cut]
  exact (piecesAssemble json).value [] []

end Json
end LiveConsole
