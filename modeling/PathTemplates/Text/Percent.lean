set_option autoImplicit false

/-!
Percent encoding of a path component, byte by byte: a space is written `+`, the letters, digits and marks that need no
escape stand for themselves, and every other byte is `%` with two capital hexadecimal digits.
-/

namespace PathTemplates.Text

def isUnreserved (byte : UInt8) : Bool :=
  (Char.ofUInt8 byte).isAlphanum || byte = '-'.toUInt8 || byte = '_'.toUInt8 || byte = '.'.toUInt8 || byte = '~'.toUInt8

def hexDigit (value : Nat) : Char :=
  if value < 10 then Char.ofNat ('0'.toNat + value) else Char.ofNat ('A'.toNat + (value - 10))

def encodeByte (byte : UInt8) : List Char :=
  if byte = ' '.toUInt8 then ['+']
  else if isUnreserved byte then [Char.ofUInt8 byte]
  else ['%', hexDigit (byte.toNat / 16), hexDigit (byte.toNat % 16)]

def encode (component : String) : String :=
  String.ofList ((component.toList.flatMap String.utf8EncodeChar).flatMap encodeByte)

def appendEncoded (written component : String) : String := written ++ encode component

end PathTemplates.Text
