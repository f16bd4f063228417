import PathTemplates.Unicode.Newest

set_option autoImplicit false

/-! Text in quotes, with escapes for what cannot be seen or would end the quotation. -/

namespace PathTemplates.Text

-- What is escaped by its code point: the unseen, and the marks that would attach to the character before them.
def escapedByCode : CharSet := Unicode.Newest.unseen.union Unicode.Newest.attaching

def quoteChar (c : Char) : List Char :=
  match c with
  | '\x00' => ['\\', '0']
  | '\t' => ['\\', 't']
  | '\r' => ['\\', 'r']
  | '\n' => ['\\', 'n']
  | '\\' => ['\\', '\\']
  | '"' => ['\\', '"']
  | c => if escapedByCode.contains c then ['\\', 'u', '\x7b'] ++ Nat.toDigits 16 c.toNat ++ ['\x7d'] else [c]

def quote (text : String) : String := String.ofList ('"' :: text.toList.flatMap quoteChar ++ ['"'])

end PathTemplates.Text
