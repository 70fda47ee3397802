/-! What a user may configure about a console, first of all the characters that give a line its
structure. -/
namespace LiveConsole

structure Symbols where
  variableSigil : Char
  globalSigil : Char
  groupOpen : Char
  groupClose : Char
  indexOpen : Char
  indexClose : Char
  concatenation : Char
  quote : Char
  /-- Property access, which may take several characters. Empty, it is never recognised. -/
  property : String
  deriving DecidableEq, Repr

def Symbols.standard : Symbols where
  variableSigil := '$'
  globalSigil := '@'
  groupOpen := '\x7b'
  groupClose := '\x7d'
  indexOpen := '['
  indexClose := ']'
  concatenation := '.'
  quote := '\''
  property := "->"

structure Settings where
  version : UInt32
  symbols : Symbols
  scrollback : UInt64
  /-- The global that holds the previous result; with no name it is the bare global sigil. -/
  lastResult : String
  deriving DecidableEq, Repr

namespace Settings

def currentVersion : UInt32 := 1

def standard : Settings := ⟨currentVersion, .standard, 100, ""⟩

end Settings
end LiveConsole
