import PathTemplates.Unicode.CharSet

set_option autoImplicit false

/-! How the UTF-8 forms of characters are read byte by byte: as words of byte ranges. -/

namespace PathTemplates.Regex

abbrev ByteRange := Nat × Nat

-- The words that cover the numbers from `first` to `last`. The last `size` digits in base 64 are continuation bytes,
-- and what is above them is added to `lead`.
def byteWords (lead : Nat) : Nat → Nat → Nat → List (List ByteRange)
  | 0, first, last => [[(lead + first, lead + last)]]
  | size + 1, first, last =>
      let block := Nat.pow 64 (size + 1)
      let top := first / block
      let bottom := last / block
      let within (head low high : Nat) : List (List ByteRange) :=
        (byteWords 0x80 size low high).map ((lead + head, lead + head) :: ·)
      if top = bottom then within top (first % block) (last % block)
      else
        let ragged := first % block ≠ 0
        let torn := last % block ≠ block - 1
        let start := if ragged then top + 1 else top
        let stop := if torn then bottom else bottom + 1
        (if ragged then within top (first % block) (block - 1) else []) ++
          (if start < stop then
            [(lead + start, lead + stop - 1) :: List.replicate (size + 1) (0x80, 0xBF)] else []) ++
          if torn then within bottom 0 (last % block) else []

-- The ranges of characters whose UTF-8 form has one length: first and last character, lead, continuation bytes.
def encodings : List (Nat × Nat × Nat × Nat) :=
  [(0, 0x7F, 0, 0), (0x80, 0x7FF, 0xC0, 1), (0x800, 0xD7FF, 0xE0, 2), (0xE000, 0xFFFF, 0xE0, 2),
    (0x10000, 0x10FFFF, 0xF0, 3)]

def CodeRange.byteWords (range : CodeRange) : List (List ByteRange) :=
  encodings.flatMap fun (first, last, lead, size) =>
    let first := max first range.first
    let last := min last range.last
    if first ≤ last then Regex.byteWords lead size first last else []

def CharSet.byteWords (set : CharSet) : List (List ByteRange) := set.ranges.flatMap CodeRange.byteWords

def textWord (text : List Char) : List ByteRange :=
  (text.flatMap String.utf8EncodeChar).map fun byte => (byte.toNat, byte.toNat)

def enterWord (head : ByteRange) (rest : List ByteRange) :
    List (ByteRange × List (List ByteRange)) → List (ByteRange × List (List ByteRange))
  | [] => [(head, [rest])]
  | (next, words) :: more =>
      if head = next then (next, rest :: words) :: more
      else if head.1 < next.1 then (head, [rest]) :: (next, words) :: more
      else (next, words) :: enterWord head rest more

def byFirst (words : List (List ByteRange)) : List (ByteRange × List (List ByteRange)) :=
  words.foldr (fun word parts => match word with
    | [] => parts
    | head :: rest => enterWord head rest parts) []

end PathTemplates.Regex
