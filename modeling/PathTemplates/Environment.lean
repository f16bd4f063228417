import PathTemplates.Config
import PathTemplates.Text.Numeral
import PathTemplates.Unicode.Property

set_option autoImplicit false

/-!
A configuration read from variables. Each variable decides one part alone, and one that is unset, is no text or cannot
be read leaves that part at its default.
-/

namespace PathTemplates

structure Environment where
  minimize : Option ByteArray := none
  explicit : Option ByteArray := none
  appendSlash : Option ByteArray := none
  cacheSize : Option ByteArray := none

namespace Environment

def ofVariables (bytes? : String → Option ByteArray) : Environment where
  minimize := bytes? "ROUTEGEN_MINIMIZATION"
  explicit := bytes? "ROUTEGEN_EXPLICIT"
  appendSlash := bytes? "ROUTEGEN_APPEND_SLASH"
  cacheSize := bytes? "ROUTEGEN_CACHE_SIZE"

def trim (text : List Char) : List Char :=
  let blank := Unicode.Property.whiteSpace.contains
  ((text.dropWhile blank).reverse.dropWhile blank).reverse

def flag? (text : List Char) : Option Bool :=
  let word := String.ofList ((trim text).map Char.toLower)
  if word ∈ ["1", "true", "yes", "on"] then some true
  else if word ∈ ["0", "false", "no", "off"] then some false
  else none

-- A decimal numeral, or a hexadecimal one behind `0x`, below 2 to the 64th.
def size? (text : List Char) : Option Nat :=
  let number :=
    match trim text with
    | '0' :: 'x' :: digits => Text.numeral? 16 digits
    | digits => Text.numeral? 10 digits
  number.filter (· < UInt64.size)

def read {α : Type} (parse : List Char → Option α) (variableBytes : Option ByteArray) (default : α) : α :=
  ((variableBytes.bind String.fromUTF8?).bind fun text => parse text.toList).getD default

def config (environment : Environment) : Config :=
  let default : Config := {}
  { minimize := read flag? environment.minimize default.minimize
    explicit := read flag? environment.explicit default.explicit
    appendSlash := read flag? environment.appendSlash default.appendSlash
    cacheSize := read size? environment.cacheSize default.cacheSize }

end Environment

end PathTemplates
