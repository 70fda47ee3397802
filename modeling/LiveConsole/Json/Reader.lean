import LiveConsole.Json.Basic
import LiveConsole.Number.Reading

/-! JSON read from text in two steps: the text is cut into pieces, and a stack of open arrays and
objects puts the pieces together. Numbers and strings keep their spelling until someone asks for
their value, so a part that nobody asks for only has to be well formed. -/
namespace LiveConsole

inductive RawJson where
  | null
  | bool (value : Bool)
  | number (spelling : List Char)
  | string (spelling : List Char)
  | array (items : List RawJson)
  | object (members : List (List Char × RawJson))
  deriving Repr

namespace RawJson

inductive Piece where
  | openArray
  | closeArray
  | openObject
  | closeObject
  | comma
  | colon
  | null
  | bool (value : Bool)
  | number (spelling : List Char)
  | string (spelling : List Char)
  deriving DecidableEq, Repr

def isSpace (c : Char) : Bool := c == ' ' || c == '\n' || c == '\t' || c == '\r'

def hexValue? (c : Char) : Option Nat :=
  if '0' ≤ c ∧ c ≤ '9' then some (c.toNat - 48)
  else if 'a' ≤ c ∧ c ≤ 'f' then some (c.toNat - 87)
  else if 'A' ≤ c ∧ c ≤ 'F' then some (c.toNat - 55)
  else none

def plainEscape? (c : Char) : Option Char :=
  match c with
  | '"' => some '"'
  | '\\' => some '\\'
  | '/' => some '/'
  | 'b' => some '\x08'
  | 'f' => some '\x0c'
  | 'n' => some '\n'
  | 'r' => some '\r'
  | 't' => some '\t'
  | _ => none

def stringBody? : List Char → Option (List Char × List Char)
  | [] => none
  | '"' :: rest => some ([], rest)
  | '\\' :: 'u' :: a :: b :: c :: d :: rest =>
      if [a, b, c, d].all fun digit => (hexValue? digit).isSome then
        (stringBody? rest).map fun (body, after) => ('\\' :: 'u' :: a :: b :: c :: d :: body, after)
      else none
  | '\\' :: c :: rest =>
      if (plainEscape? c).isSome then
        (stringBody? rest).map fun (body, after) => ('\\' :: c :: body, after)
      else none
  | c :: rest =>
      if c.toNat < 0x20 ∨ c = '\\' then none
      else (stringBody? rest).map fun (body, after) => (c :: body, after)

theorem stringBodyShorter {chars body rest : List Char}
    (h : stringBody? chars = some (body, rest)) : rest.length < chars.length := by
  fun_induction stringBody? chars generalizing body rest with
  | case1 => simp at h
  | case2 => simp at h; simp [← h.2]
  | case3 a b c d tail _ ih =>
    obtain ⟨⟨_, _⟩, inner, same⟩ := Option.map_eq_some_iff.1 h
    cases same
    have := ih inner
    simp only [List.length_cons]
    omega
  | case4 => simp at h
  | case5 c tail _ _ ih =>
    obtain ⟨⟨_, _⟩, inner, same⟩ := Option.map_eq_some_iff.1 h
    cases same
    have := ih inner
    simp only [List.length_cons]
    omega
  | case6 => simp at h
  | case7 => simp at h
  | case8 c tail _ _ _ _ ih =>
    obtain ⟨⟨_, _⟩, inner, same⟩ := Option.map_eq_some_iff.1 h
    cases same
    have := ih inner
    simp only [List.length_cons]
    omega

def digitsAnd (chars : List Char) : List Char × List Char :=
  (chars.takeWhile Char.isDigit, chars.dropWhile Char.isDigit)

def fractionPart? : List Char → Option (List Char × List Char)
  | '.' :: rest =>
      let (digits, after) := digitsAnd rest
      if digits = [] then none else some ('.' :: digits, after)
  | chars => some ([], chars)

def exponentSign : List Char → List Char × List Char
  | '+' :: rest => (['+'], rest)
  | '-' :: rest => (['-'], rest)
  | chars => ([], chars)

def exponentPart? : List Char → Option (List Char × List Char)
  | c :: rest =>
      if c = 'e' ∨ c = 'E' then
        let (sign, unsigned) := exponentSign rest
        let (digits, after) := digitsAnd unsigned
        if digits = [] then none else some (c :: sign ++ digits, after)
      else some ([], c :: rest)
  | [] => some ([], [])

def wholePart? : List Char → Option (List Char × List Char)
  | '0' :: rest => some (['0'], rest)
  | chars =>
      let (digits, after) := digitsAnd chars
      if digits = [] then none else some (digits, after)

def minusSign : List Char → List Char × List Char
  | '-' :: rest => (['-'], rest)
  | chars => ([], chars)

def number? (chars : List Char) : Option (List Char × List Char) := do
  let (sign, unsigned) := minusSign chars
  let (whole, afterWhole) ← wholePart? unsigned
  let (fraction, afterFraction) ← fractionPart? afterWhole
  let (exponent, rest) ← exponentPart? afterFraction
  some (sign ++ whole ++ fraction ++ exponent, rest)

def nextPiece? (c : Char) (rest : List Char) : Option (Piece × List Char) :=
  match c with
  | '[' => some (.openArray, rest)
  | ']' => some (.closeArray, rest)
  | '\x7b' => some (.openObject, rest)
  | '\x7d' => some (.closeObject, rest)
  | ',' => some (.comma, rest)
  | ':' => some (.colon, rest)
  | '"' => (stringBody? rest).map fun (body, after) => (.string body, after)
  | 'n' => if ['u', 'l', 'l'].isPrefixOf rest then some (.null, rest.drop 3) else none
  | 't' => if ['r', 'u', 'e'].isPrefixOf rest then some (.bool true, rest.drop 3) else none
  | 'f' => if ['a', 'l', 's', 'e'].isPrefixOf rest then some (.bool false, rest.drop 4) else none
  | _ => (number? (c :: rest)).map fun (spelling, after) => (.number spelling, after)

theorem digitsAndLength (chars : List Char) :
    (digitsAnd chars).1.length + (digitsAnd chars).2.length = chars.length := by
  simp only [digitsAnd, ← List.length_append, List.takeWhile_append_dropWhile]

theorem fractionPartLength {chars part rest : List Char}
    (h : fractionPart? chars = some (part, rest)) : rest.length ≤ chars.length := by
  unfold fractionPart? at h
  split at h
  · rename_i tail
    have := digitsAndLength tail
    dsimp only at h
    split at h
    · contradiction
    · cases h
      simp only [List.length_cons]
      omega
  · cases h
    exact Nat.le_refl _

theorem exponentSignLength (chars : List Char) :
    (exponentSign chars).2.length ≤ chars.length := by
  unfold exponentSign
  split <;> simp

theorem minusSignLength (chars : List Char) : (minusSign chars).2.length ≤ chars.length := by
  unfold minusSign
  split <;> simp

theorem exponentPartLength {chars part rest : List Char}
    (h : exponentPart? chars = some (part, rest)) : rest.length ≤ chars.length := by
  unfold exponentPart? at h
  split at h
  · split at h
    · dsimp only at h
      split at h
      · contradiction
      · rename_i c tail _ _
        have := digitsAndLength (exponentSign tail).2
        have := exponentSignLength tail
        cases h
        simp only [List.length_cons]
        omega
    · cases h
      exact Nat.le_refl _
  · cases h
    exact Nat.le_refl _

theorem wholePartShorter {chars part rest : List Char}
    (h : wholePart? chars = some (part, rest)) : rest.length < chars.length := by
  unfold wholePart? at h
  split at h
  · cases h
    simp
  · have := digitsAndLength chars
    dsimp only at h
    split at h
    · contradiction
    · rename_i some_digit
      cases h
      have := List.length_pos_iff.2 some_digit
      omega

theorem numberShorter {chars spelling rest : List Char}
    (h : number? chars = some (spelling, rest)) : rest.length < chars.length := by
  unfold number? at h
  simp only [bind, Option.bind_eq_some_iff] at h
  obtain ⟨⟨whole, afterWhole⟩, atWhole, ⟨fraction, afterFraction⟩, atFraction,
    ⟨exponent, afterExponent⟩, atExponent, same⟩ := h
  cases same
  have unsigned := minusSignLength chars
  have first := wholePartShorter atWhole
  have second := fractionPartLength atFraction
  have third := exponentPartLength atExponent
  dsimp only at first second third unsigned ⊢
  omega

theorem nextPieceLength {c : Char} {rest after : List Char} {piece : Piece}
    (h : nextPiece? c rest = some (piece, after)) : after.length ≤ rest.length := by
  unfold nextPiece? at h
  split at h
  all_goals first
    | (cases h; exact Nat.le_refl _)
    | skip
  · obtain ⟨⟨_, _⟩, inner, same⟩ := Option.map_eq_some_iff.1 h
    cases same
    exact Nat.le_of_lt (stringBodyShorter inner)
  · split at h <;> simp at h
    simp [← h.2]
  · split at h <;> simp at h
    simp [← h.2]
  · split at h <;> simp at h
    simp [← h.2]
  · obtain ⟨⟨_, _⟩, inner, same⟩ := Option.map_eq_some_iff.1 h
    cases same
    have := numberShorter inner
    simp only [List.length_cons] at this
    omega

def pieces? : List Char → Option (List Piece)
  | [] => some []
  | c :: rest =>
      if isSpace c then pieces? rest
      else match _taken : nextPiece? c rest with
        | none => none
        | some (piece, after) => (pieces? after).map fun later => piece :: later
termination_by chars => chars.length
decreasing_by
  · simp
  · have := nextPieceLength _taken
    simp only [List.length_cons]
    omega

inductive Frame where
  | array (items : List RawJson)
  | object (members : List (List Char × RawJson)) (name : List Char)

inductive Await where
  | value
  | itemOrClose
  | nameOrClose
  | name
  | colon
  | separator (complete : RawJson)

def startValue? (frames : List Frame) : Piece → Option (List Frame × Await)
  | .null => some (frames, .separator .null)
  | .bool value => some (frames, .separator (.bool value))
  | .number spelling => some (frames, .separator (.number spelling))
  | .string spelling => some (frames, .separator (.string spelling))
  | .openArray => some (.array [] :: frames, .itemOrClose)
  | .openObject => some (.object [] [] :: frames, .nameOrClose)
  | _ => none

def nameMember? : List Frame → Piece → Option (List Frame × Await)
  | .object members _ :: outer, .string name => some (.object members name :: outer, .colon)
  | _, _ => none

def advance? : List Frame → Await → Piece → Option (List Frame × Await)
  | frames, .value, piece => startValue? frames piece
  | .array items :: outer, .itemOrClose, .closeArray =>
      some (outer, .separator (.array items.reverse))
  | frames, .itemOrClose, piece => startValue? frames piece
  | .object members _ :: outer, .nameOrClose, .closeObject =>
      some (outer, .separator (.object members.reverse))
  | frames, .nameOrClose, piece => nameMember? frames piece
  | frames, .name, piece => nameMember? frames piece
  | frames, .colon, .colon => some (frames, .value)
  | .array items :: outer, .separator item, .comma => some (.array (item :: items) :: outer, .value)
  | .array items :: outer, .separator item, .closeArray =>
      some (outer, .separator (.array (item :: items).reverse))
  | .object members name :: outer, .separator value, .comma =>
      some (.object ((name, value) :: members) name :: outer, .name)
  | .object members name :: outer, .separator value, .closeObject =>
      some (outer, .separator (.object ((name, value) :: members).reverse))
  | _, _, _ => none

def assemble? : List Frame → Await → List Piece → Option RawJson
  | [], .separator complete, [] => some complete
  | _, _, [] => none
  | frames, await, piece :: rest =>
      (advance? frames await piece).bind fun (frames, await) => assemble? frames await rest

def read? (text : String) : Option RawJson :=
  (pieces? text.toList).bind fun pieces => assemble? [] .value pieces

def codeUnits : List Char → List Nat
  | '\\' :: 'u' :: a :: b :: c :: d :: rest =>
      let value := [a, b, c, d].foldl (fun sum digit => 16 * sum + (hexValue? digit).getD 0) 0
      value :: codeUnits rest
  | '\\' :: c :: rest => ((plainEscape? c).getD c).toNat :: codeUnits rest
  | c :: rest => c.toNat :: codeUnits rest
  | [] => []

def isLeading (unit : Nat) : Bool := 0xD800 ≤ unit && unit ≤ 0xDBFF

def isTrailing (unit : Nat) : Bool := 0xDC00 ≤ unit && unit ≤ 0xDFFF

def joinUnits? : List Nat → Option (List Char)
  | [] => some []
  | unit :: rest =>
      if isLeading unit then
        match rest with
        | [] => none
        | trailing :: later =>
            if isTrailing trailing then
              (joinUnits? later).map fun chars =>
                Char.ofNat (0x10000 + 0x400 * (unit - 0xD800) + (trailing - 0xDC00)) :: chars
            else none
      else if isTrailing unit then none
      else (joinUnits? rest).map fun chars => Char.ofNat unit :: chars

def decoded? (spelling : List Char) : Option String :=
  (joinUnits? (codeUnits spelling)).map String.ofList

end RawJson
end LiveConsole
