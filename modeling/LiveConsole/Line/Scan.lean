import LiveConsole.Line.Lexeme
import LiveConsole.Settings.Basic
import LiveConsole.Text.Classes

/-! A console line cut into lexemes. Every line can be cut: a character without a meaning is an
invalid lexeme, and a quote that is never closed takes the rest of the line. -/
namespace LiveConsole
open Text

def Symbols.startsProperty (symbols : Symbols) (chars : List Char) : Bool :=
  !symbols.property.isEmpty && symbols.property.toList.isPrefixOf chars

namespace Lexeme

def word (kind : LexemeKind) (lead : String) (position : Nat) (chars : List Char) :
    Lexeme × List Char :=
  (⟨kind, String.ofList (chars.takeWhile isWord), position, lead, ""⟩, chars.dropWhile isWord)

def quotation (quote : Char) (position : Nat) (chars : List Char) : Lexeme × List Char :=
  let value := String.ofList (chars.takeWhile (· != quote))
  match chars.dropWhile (· != quote) with
  | [] => (⟨.string, value, position, quote.toString, ""⟩, [])
  | _ :: rest => (⟨.string, value, position, quote.toString, quote.toString⟩, rest)

def singleKind (symbols : Symbols) (c : Char) : LexemeKind :=
  if c = symbols.groupOpen then .openGroup
  else if c = symbols.groupClose then .closeGroup
  else if c = symbols.indexOpen then .openIndex
  else if c = symbols.indexClose then .closeIndex
  else if c = symbols.concatenation then .concatenation
  else if isWord c then .command
  else .invalid

/- The lexeme that starts at a character other than white space, and what follows it. The first
symbol that fits decides, so symbols may coincide. -/
def next (symbols : Symbols) (position : Nat) (c : Char) (rest : List Char) :
    Lexeme × List Char :=
  if symbols.startsProperty (c :: rest) then
    (bare .property symbols.property position, rest.drop (symbols.property.length - 1))
  else if c = symbols.variableSigil then word .variable c.toString position rest
  else if c = symbols.globalSigil then word .global c.toString position rest
  else if c = symbols.quote then quotation c position rest
  else match singleKind symbols c with
    | .command => word .command "" position (c :: rest)
    | kind => (bare kind c.toString position, rest)

theorem wordLength (kind : LexemeKind) (lead : String) (position : Nat) (chars : List Char) :
    (word kind lead position chars).2.length ≤ chars.length :=
  (List.dropWhile_suffix _).length_le

theorem quotationLength (quote : Char) (position : Nat) (chars : List Char) :
    (quotation quote position chars).2.length ≤ chars.length := by
  have shorter := (List.dropWhile_suffix (l := chars) (· != quote)).length_le
  unfold quotation
  split
  · simp
  · rename_i tail equal
    rw [equal, List.length_cons] at shorter
    exact Nat.le_of_succ_le shorter

theorem singleKindCommand {symbols : Symbols} {c : Char} (h : singleKind symbols c = .command) :
    isWord c = true := by
  unfold singleKind at h
  grind

theorem nextLength (symbols : Symbols) (position : Nat) (c : Char) (rest : List Char) :
    (next symbols position c rest).2.length ≤ rest.length := by
  unfold next
  split
  · simp
  · split
    · exact wordLength ..
    · split
      · exact wordLength ..
      · split
        · exact quotationLength ..
        · split
          · rename_i command
            simp only [word, List.dropWhile_cons, singleKindCommand command, if_true]
            exact (List.dropWhile_suffix _).length_le
          · exact Nat.le_refl _

def scanFrom (symbols : Symbols) (position : Nat) : List Char → List Lexeme
  | [] => []
  | c :: rest =>
      if isBlank c then scanFrom symbols (position + c.utf8Size) rest
      else
        let step := next symbols position c rest
        step.1 :: scanFrom symbols step.1.stop step.2
termination_by chars => chars.length
decreasing_by
  · simp
  · exact Nat.lt_succ_of_le (nextLength ..)

def scan (symbols : Symbols) (source : String) : List Lexeme :=
  scanFrom symbols 0 source.toList

end Lexeme
end LiveConsole
