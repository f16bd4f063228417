import PathTemplates.Regex.Tree
import PathTemplates.Unicode.Age
import PathTemplates.Unicode.Break

set_option autoImplicit false

/-! The sets that a property query names. -/

namespace PathTemplates.Regex

-- The form in which names are compared: ASCII, in lower case, without blanks, hyphens, low lines and a leading `is`.
-- The name `isc` keeps its beginning, since a lone `c` means another property.
def plainName (name : String) : String :=
  let lower := name.toList.map Char.toLower
  let body := if ['i', 's'].isPrefixOf lower then lower.drop 2 else lower
  let plain := body.filter fun c => c ≠ ' ' && c ≠ '_' && c ≠ '-' && c.toNat < 0x80
  if plain = ['c'] && body.length < lower.length then "isc" else String.ofList plain

namespace PropertyQuery

-- A lone name is a property, a general category or a script, in this order.
def set? : PropertyQuery → Option CharSet
  | .alone name =>
      let name := plainName name
      Unicode.Property.named? name <|> Unicode.Category.named? name <|> Unicode.Script.named? name
  | .valued property value =>
      let value := plainName value
      match plainName property with
      | "gc" | "generalcategory" => Unicode.Category.named? value
      | "sc" | "script" => Unicode.Script.named? value
      | "scx" | "scriptextensions" => Unicode.Script.usedBy? value
      | "age" => Unicode.Age.upTo? value
      | "gcb" | "graphemeclusterbreak" => Unicode.Break.Cluster.named? value
      | "wb" | "wordbreak" => Unicode.Break.Word.named? value
      | "sb" | "sentencebreak" => Unicode.Break.Sentence.named? value
      | _ => none

end PropertyQuery

end PathTemplates.Regex
