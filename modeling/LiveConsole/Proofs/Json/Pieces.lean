import LiveConsole.Proofs.Json.Spelling
import Mathlib.Data.List.Forall2

/-! The pieces of an indented document. Its text is cut into what it was laid out from, at whatever
depth it stands and whatever follows it. -/
namespace LiveConsole

namespace Json
open RawJson (Piece EndsNumber spelling pieces?)

mutual

def pieces : Json → List Piece
  | .null => [.null]
  | .bool value => [.bool value]
  | .number literal => [.number literal.toList]
  | .string text => [.string (spelling text)]
  | .array items => .openArray :: ([Piece.comma].intercalate (itemPieces items) ++ [.closeArray])
  | .object members =>
      .openObject :: ([Piece.comma].intercalate (memberPieces members) ++ [.closeObject])

def itemPieces : List Json → List (List Piece)
  | [] => []
  | item :: rest => pieces item :: itemPieces rest

def memberPieces : List (String × Json) → List (List Piece)
  | [] => []
  | (name, value) :: rest =>
      (.string (spelling name) :: .colon :: pieces value) :: memberPieces rest

end

def CutBefore (rest : List Char) (text : String) (pieces : List Piece) : Prop :=
  pieces? (text.toList ++ rest) = (pieces? rest).map (pieces ++ ·)

/- Cut into its pieces whatever follows. A text that only `Reads` may end in a number, which must
not go on. -/
def Closed (text : String) (pieces : List Piece) : Prop := ∀ rest, CutBefore rest text pieces

def Reads (text : String) (pieces : List Piece) : Prop :=
  ∀ rest, EndsNumber rest → CutBefore rest text pieces

theorem Closed.reads {text : String} {pieces : List Piece} (closed : Closed text pieces) :
    Reads text pieces := fun rest _ => closed rest

theorem CutBefore.append {rest : List Char} {a b : String} {p q : List Piece}
    (first : CutBefore (b.toList ++ rest) a p) (second : CutBefore rest b q) :
    CutBefore rest (a ++ b) (p ++ q) := by
  unfold CutBefore at *
  rw [String.toList_append, List.append_assoc, first, second, Option.map_map]
  simp [Function.comp_def]

end Json

namespace RawJson

theorem piecesBlank {c : Char} (blank : isSpace c = true) (rest : List Char) :
    pieces? (c :: rest) = pieces? rest := by
  rw [pieces?, if_pos blank]

theorem piecesNext {c : Char} {rest after : List Char} {piece : Piece} (visible : isSpace c = false)
    (next : nextPiece? c rest = some (piece, after)) :
    pieces? (c :: rest) = (pieces? after).map (piece :: ·) := by
  rw [pieces?, if_neg (by simp [visible])]
  split <;> simp_all

end RawJson

namespace Json
open RawJson (Piece EndsNumber spelling pieces? piecesBlank piecesNext)

theorem endsAtSign {sign : String} {c : Char} (spelled : sign.toList = [c])
    (ends : c = ',' ∨ c = '\n') (text : String) (rest : List Char) :
    EndsNumber ((sign ++ text).toList ++ rest) := by
  rw [String.toList_append, spelled]
  intro first same
  cases Option.mem_some_iff.mp same
  rcases ends with rfl | rfl <;> decide

theorem blankClosed {text : String} (blank : ∀ c ∈ text.toList, RawJson.isSpace c = true) :
    Closed text [] := by
  intro rest
  unfold CutBefore
  generalize text.toList = chars at *
  induction chars with
  | nil => simp
  | cons c chars ih =>
    simp only [List.mem_cons, forall_eq_or_imp] at blank
    rw [List.cons_append, piecesBlank blank.1, ih blank.2]

theorem indentationClosed (depth : Nat) : Closed ("\n" ++ indentation depth) [] :=
  blankClosed fun c member => by
    rcases (by simpa [indentation] using member) with rfl | ⟨-, rfl⟩ <;> rfl

theorem pieceClosed {text : String} {c : Char} {chars : List Char} {piece : Piece}
    (spelled : text.toList = c :: chars) (visible : RawJson.isSpace c = false)
    (next : ∀ rest, RawJson.nextPiece? c (chars ++ rest) = some (piece, rest)) :
    Closed text [piece] := by
  intro rest
  rw [CutBefore, spelled]
  exact piecesNext visible (next rest)

theorem literalClosed (text : String) : Closed (stringLiteral text) [.string (spelling text)] := by
  refine pieceClosed (RawJson.spelledLiteral text) rfl fun rest => ?_
  rw [RawJson.nextPiece?, List.append_assoc, List.singleton_append, RawJson.bodySpelled]
  rfl

theorem colonClosed : Closed ": " [.colon] := by
  have colon : Closed ":" [.colon] := pieceClosed rfl rfl fun _ => rfl
  have space : Closed " " [] := blankClosed fun _ member => List.mem_singleton.mp member ▸ rfl
  exact fun rest => (colon _).append (space rest)

theorem naturalReads (n : Nat) : Reads (toString n) [.number (toString n).toList] := by
  intro rest ends
  have number := RawJson.numberSpelled n ends
  obtain ⟨c, tail, digits, digit⟩ := RawJson.decimalHead n
  have visible : RawJson.isSpace c = false := by
    simp only [RawJson.isSpace, Bool.or_eq_false_iff, beq_eq_false_iff_ne]
    refine ⟨⟨⟨?_, ?_⟩, ?_⟩, ?_⟩ <;> (rintro rfl; cases digit)
  have spelled : (toString n).toList = c :: tail := Nat.toList_repr.trans digits
  rw [digits, List.cons_append] at number
  rw [CutBefore, spelled, List.cons_append]
  refine piecesNext visible ?_
  rw [RawJson.nextOfDigit digit, number]
  rfl

theorem separatedReads {texts : List String} {parts : List (List Piece)}
    (read : List.Forall₂ Reads texts parts) :
    Reads (commaSeparated texts) ([Piece.comma].intercalate parts) := by
  induction read with
  | nil =>
    intro rest _
    simp [CutBefore, commaSeparated]
  | @cons text part texts parts first tail ih =>
    cases tail with
    | nil => simpa [commaSeparated] using first
    | @cons second more texts parts =>
      have joined : commaSeparated (text :: second :: texts) =
          text ++ ("," ++ commaSeparated (second :: texts)) := by
        simp [← String.toList_inj, commaSeparated]
      have comma : Closed "," [.comma] := pieceClosed rfl rfl fun _ => rfl
      rw [joined, List.intercalate_cons_cons, List.append_assoc]
      intro rest ends
      exact (first _ (endsAtSign rfl (.inl rfl) _ _)).append ((comma _).append (ih rest ends))

theorem blockClosed {opening closing : String} {opener closer : Piece}
    (opens : Closed opening [opener]) (closes : Closed closing [closer]) (depth : Nat)
    {texts : List String} {parts : List (List Piece)} (read : List.Forall₂ Reads texts parts) :
    Closed (block depth opening closing texts)
      (opener :: ([Piece.comma].intercalate parts ++ [closer])) := by
  intro rest
  cases read with
  | nil => exact (opens _).append (closes rest)
  | @cons text part texts parts first tail =>
    have line {text : String} {part : List Piece} (read : Reads text part) :
        Reads ("\n" ++ indentation (depth + 1) ++ text) part :=
      fun rest ends => (indentationClosed (depth + 1) _).append (read rest ends)
    have lines := separatedReads (List.forall₂_map_left_iff.mpr
      ((List.Forall₂.cons first tail).imp fun _ _ => line))
    have laid : block depth opening closing (text :: texts) =
        opening ++ (commaSeparated ((text :: texts).map fun part =>
          "\n" ++ indentation (depth + 1) ++ part) ++ ("\n" ++ indentation depth ++ closing)) := by
      simp [block, String.append_assoc]
    rw [laid]
    have ends : EndsNumber (("\n" ++ indentation depth ++ closing).toList ++ rest) := by
      rw [String.append_assoc]
      exact endsAtSign rfl (.inr rfl) _ _
    have last := (indentationClosed depth _).append (closes rest)
    exact (opens _).append ((lines _ ends).append last)

mutual

def Legible : Json → Prop
  | .number literal => Reads literal [.number literal.toList]
  | .array items => LegibleItems items
  | .object members => LegibleMembers members
  | .null | .bool _ | .string _ => True

def LegibleItems : List Json → Prop
  | [] => True
  | item :: rest => Legible item ∧ LegibleItems rest

def LegibleMembers : List (String × Json) → Prop
  | [] => True
  | (_, value) :: rest => Legible value ∧ LegibleMembers rest

end

theorem naturalLegible (n : Nat) : Legible (.ofNat n) := naturalReads n

mutual

theorem indentedReads (depth : Nat) : ∀ json : Json, Legible json →
    Reads (indented depth json) (pieces json)
  | .null, _ => (pieceClosed rfl rfl fun _ => rfl : Closed "null" [.null]).reads
  | .bool true, _ => (pieceClosed rfl rfl fun _ => rfl : Closed "true" [.bool true]).reads
  | .bool false, _ => (pieceClosed rfl rfl fun _ => rfl : Closed "false" [.bool false]).reads
  | .number literal, legible => legible
  | .string text, _ => (literalClosed text).reads
  | .array items, legible => by
    have opens : Closed "[" [.openArray] := pieceClosed rfl rfl fun _ => rfl
    have closes : Closed "]" [.closeArray] := pieceClosed rfl rfl fun _ => rfl
    exact (blockClosed opens closes depth (itemsRead (depth + 1) items legible)).reads
  | .object members, legible => by
    have opens : Closed "\x7b" [.openObject] := pieceClosed rfl rfl fun _ => rfl
    have closes : Closed "\x7d" [.closeObject] := pieceClosed rfl rfl fun _ => rfl
    exact (blockClosed opens closes depth (membersRead (depth + 1) members legible)).reads

theorem itemsRead (depth : Nat) : ∀ items : List Json, LegibleItems items →
    List.Forall₂ Reads (indentedItems depth items) (itemPieces items)
  | [], _ => .nil
  | item :: rest, legible =>
    .cons (indentedReads depth item legible.1) (itemsRead depth rest legible.2)

theorem membersRead (depth : Nat) : ∀ members : List (String × Json), LegibleMembers members →
    List.Forall₂ Reads (indentedMembers depth members) (memberPieces members)
  | [], _ => .nil
  | (name, value) :: rest, legible => by
    have first : Reads (stringLiteral name ++ ": " ++ indented depth value)
        (.string (spelling name) :: .colon :: pieces value) := by
      intro follows ends
      rw [String.append_assoc]
      exact (literalClosed name _).append
        ((colonClosed _).append (indentedReads depth value legible.1 follows ends))
    exact .cons first (membersRead depth rest legible.2)

end

end Json
end LiveConsole
