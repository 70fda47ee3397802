import LiveConsole.Json.Printer
import LiveConsole.Json.Reader
import Mathlib.Tactic.SplitIfs

/-! Strings and numbers as a document spells them. What is written for a text reads as far as the
closing quote and stands for that text again; what is written for a number reads as far as its last
digit and has that value again. -/
namespace LiveConsole.RawJson

inductive Escape (c : Char) : List Char → Prop where
  | letter {letter : Char} (stands : plainEscape? letter = some c) : Escape c ['\\', letter]
  | unit {high low : Char}
      (hexadecimal : ['0', '0', high, low].all fun digit => (hexValue? digit).isSome)
      (value : [high, low].foldl (fun sum digit => 16 * sum + (hexValue? digit).getD 0) 0 =
        c.toNat) :
      Escape c ['\\', 'u', '0', '0', high, low]
  | itself (visible : ¬ c.toNat < 0x20) (unquoted : c ≠ '"') (unescaped : c ≠ '\\') : Escape c [c]

theorem controlEscape (c : Char) (control : c.toNat < 0x20) :
    Escape c ("\\u" ++ Json.fourDigits c.toNat).toList := by
  have digits : ∀ n < 0x20,
      List.replicate (4 - (Nat.toDigits 16 n).length) '0' ++ Nat.toDigits 16 n =
        ['0', '0', Nat.digitChar (n / 16), Nat.digitChar (n % 16)] := by decide
  have hexadecimal : ∀ n < 0x20, ['0', '0', Nat.digitChar (n / 16), Nat.digitChar (n % 16)].all
      fun digit => (hexValue? digit).isSome := by decide
  have value : ∀ n < 0x20, [Nat.digitChar (n / 16), Nat.digitChar (n % 16)].foldl
      (fun sum digit => 16 * sum + (hexValue? digit).getD 0) 0 = n := by decide
  have spelled : ("\\u" ++ Json.fourDigits c.toNat).toList = '\\' :: 'u' ::
      (List.replicate (4 - (Nat.toDigits 16 c.toNat).length) '0' ++ Nat.toDigits 16 c.toNat) := by
    simp [Json.fourDigits, Number.zeros, Text.hexadecimal]
  rw [spelled, digits c.toNat control]
  exact .unit (hexadecimal c.toNat control) (value c.toNat control)

theorem escapes (c : Char) : Escape c (Json.escapedChar c).toList := by
  unfold Json.escapedChar
  split_ifs with quote backslash backspace feed newline carriage tab control
  case pos => exact quote ▸ .letter rfl
  case pos => exact backslash ▸ .letter rfl
  case pos => exact backspace ▸ .letter rfl
  case pos => exact feed ▸ .letter rfl
  case pos => exact newline ▸ .letter rfl
  case pos => exact carriage ▸ .letter rfl
  case pos => exact tab ▸ .letter rfl
  case pos => exact controlEscape c control
  case neg => simpa using Escape.itself control quote backslash

theorem letterNotUnit {letter c : Char} (stands : plainEscape? letter = some c) : letter ≠ 'u' := by
  rintro rfl
  cases stands

theorem bodyEscaped {c : Char} {spelled : List Char} (escape : Escape c spelled)
    (rest : List Char) :
    stringBody? (spelled ++ rest) =
      (stringBody? rest).map fun (body, after) => (spelled ++ body, after) := by
  cases escape with
  | letter stands => simp [stringBody?, stands, letterNotUnit stands]
  | unit hexadecimal value => simp [stringBody?, hexadecimal]
  | itself visible unquoted unescaped => simp [stringBody?, visible, unescaped]

theorem unitsEscaped {c : Char} {spelled : List Char} (escape : Escape c spelled)
    (rest : List Char) :
    codeUnits (spelled ++ rest) = c.toNat :: codeUnits rest := by
  cases escape with
  | letter stands => simp [codeUnits, stands, letterNotUnit stands]
  | unit hexadecimal value =>
    have zero : (hexValue? '0').getD 0 = 0 := rfl
    simp [codeUnits, ← value, zero]
  | itself visible unquoted unescaped => simp [codeUnits, unescaped]

def spelling (text : String) : List Char := text.toList.flatMap fun c => (Json.escapedChar c).toList

theorem spelledLiteral (text : String) :
    (Json.stringLiteral text).toList = '"' :: (spelling text ++ ['"']) := by
  simp [Json.stringLiteral, spelling, List.flatMap_def, Function.comp_def]

theorem bodySpelled (text : String) (rest : List Char) :
    stringBody? (spelling text ++ '"' :: rest) = some (spelling text, rest) := by
  unfold spelling
  induction text.toList with
  | nil => simp [stringBody?]
  | cons c chars ih =>
    rw [List.flatMap_cons, List.append_assoc, bodyEscaped (escapes c), ih]
    rfl

theorem unitsSpelled (text : String) : codeUnits (spelling text) = text.toList.map Char.toNat := by
  unfold spelling
  induction text.toList with
  | nil => rfl
  | cons c chars ih => rw [List.flatMap_cons, unitsEscaped (escapes c), ih, List.map_cons]

theorem joinCharacters (chars : List Char) : joinUnits? (chars.map Char.toNat) = some chars := by
  induction chars with
  | nil => rfl
  | cons c chars ih =>
    have valid : c.toNat < 0xD800 ∨ 0xDFFF < c.toNat ∧ c.toNat < 0x110000 := c.valid
    have leading : isLeading c.toNat = false := by
      simp only [isLeading, Bool.and_eq_false_iff, decide_eq_false_iff_not]
      omega
    have trailing : isTrailing c.toNat = false := by
      simp only [isTrailing, Bool.and_eq_false_iff, decide_eq_false_iff_not]
      omega
    rw [List.map_cons, joinUnits?.eq_def]
    simp [leading, trailing, ih]

theorem spellingDecoded (text : String) : decoded? (spelling text) = some text := by
  rw [decoded?, unitsSpelled, joinCharacters, Option.map_some, String.ofList_toList]

def EndsNumber (rest : List Char) : Prop :=
  ∀ c ∈ rest.head?, c.isDigit = false ∧ c ≠ '.' ∧ c ≠ 'e' ∧ c ≠ 'E'

theorem digitsSpelled {digits rest : List Char} (all : ∀ c ∈ digits, c.isDigit = true)
    (ends : EndsNumber rest) : digitsAnd (digits ++ rest) = (digits, rest) := by
  unfold digitsAnd
  rw [List.takeWhile_append_of_pos all, List.dropWhile_append_of_pos all]
  cases rest with
  | nil => simp
  | cons c rest =>
    have stop := (ends c rfl).1
    simp [stop]

theorem noFraction {rest : List Char} (ends : EndsNumber rest) :
    fractionPart? rest = some ([], rest) := by
  cases rest with
  | nil => rfl
  | cons c rest => simp [fractionPart?, (ends c rfl).2.1]

theorem noExponent {rest : List Char} (ends : EndsNumber rest) :
    exponentPart? rest = some ([], rest) := by
  cases rest with
  | nil => rfl
  | cons c rest => simp [exponentPart?, (ends c rfl).2.2]

theorem decimalDigits (n : Nat) : ∀ c ∈ Nat.toDigits 10 n, c.isDigit = true :=
  fun _ member => Nat.isDigit_of_mem_toDigits (by decide) (by decide) member

theorem decimalHead (n : Nat) : ∃ c tail, Nat.toDigits 10 n = c :: tail ∧ c.isDigit = true := by
  obtain ⟨c, tail, digits⟩ := List.exists_cons_of_ne_nil (Nat.toDigits_ne_nil (b := 10) (n := n))
  exact ⟨c, tail, digits, decimalDigits n c (digits ▸ List.mem_cons_self)⟩

theorem leadingDigit {n : Nat} (positive : 0 < n) : (Nat.toDigits 10 n).head? ≠ some '0' := by
  induction n using Nat.strongRecOn with
  | ind n ih =>
    by_cases small : n < 10
    · have digits : ∀ n < 10, 0 < n → Nat.digitChar n ≠ '0' := by decide
      rw [Nat.toDigits_of_lt_base small]
      simpa using digits n small positive
    · have first := ih (n / 10) (by omega) (by omega)
      obtain ⟨c, tail, digits, -⟩ := decimalHead (n / 10)
      rw [Nat.toDigits_of_base_le (by decide) (by omega), digits, List.cons_append]
      rwa [digits] at first

theorem wholeSpelled (n : Nat) {rest : List Char} (ends : EndsNumber rest) :
    wholePart? (Nat.toDigits 10 n ++ rest) = some (Nat.toDigits 10 n, rest) := by
  rcases Nat.eq_zero_or_pos n with rfl | positive
  · rfl
  · have leading := leadingDigit positive
    have whole := digitsSpelled (decimalDigits n) ends
    obtain ⟨c, tail, digits, -⟩ := decimalHead n
    rw [digits] at leading whole ⊢
    have nonzero : c ≠ '0' := by simpa using leading
    rw [List.cons_append] at whole ⊢
    simp [wholePart?, nonzero, whole]

theorem numberSpelled (n : Nat) {rest : List Char} (ends : EndsNumber rest) :
    number? (Nat.toDigits 10 n ++ rest) = some (Nat.toDigits 10 n, rest) := by
  have unsigned : minusSign (Nat.toDigits 10 n ++ rest) = ([], Nat.toDigits 10 n ++ rest) := by
    obtain ⟨c, tail, digits, digit⟩ := decimalHead n
    have plain : c ≠ '-' := by
      rintro rfl
      cases digit
    simp [digits, minusSign, plain]
  simp [number?, unsigned, wholeSpelled n ends, noFraction ends, noExponent ends]

theorem nextOfDigit {c : Char} (digit : c.isDigit = true) (rest : List Char) :
    nextPiece? c rest =
      (number? (c :: rest)).map fun (spelling, after) => (.number spelling, after) := by
  unfold nextPiece?
  split <;> first | rfl | cases digit

theorem naturalSpelled (n : Nat) : Number.readNatural? (Nat.toDigits 10 n) = some n := by
  have all : (Nat.toDigits 10 n).all Char.isDigit = true :=
    List.all_eq_true.mpr (decimalDigits n)
  have value : Number.digitsValue (Nat.toDigits 10 n) = n :=
    Nat.ofDigitChars_toDigits (by decide) (by decide)
  rw [Number.readNatural?, if_pos ⟨Nat.toDigits_ne_nil, all⟩, value]

end LiveConsole.RawJson
