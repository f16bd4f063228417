import PathTemplates.Unicode.Property

set_option autoImplicit false

/-!
Blanks in a regular expression. In spaced mode they stand for nothing, and a number sign starts a comment that ends
with its line. Every reading function takes what is left of the text and gives back what it leaves.
-/

namespace PathTemplates.Regex

def isBlank (c : Char) : Bool := Unicode.Property.whiteSpace.contains c

def dropBlanks (inComment : Bool) : List Char → List Char
  | [] => []
  | c :: rest =>
      if inComment then dropBlanks (c ≠ '\n') rest
      else if isBlank c then dropBlanks false rest
      else if c = '#' then dropBlanks true rest
      else c :: rest

def skip (spaced : Bool) (text : List Char) : List Char := if spaced then dropBlanks false text else text

-- Takes characters that are wanted, at most `room` of them, with the blanks that spaced mode allows between them.
def gather (spaced : Bool) (wanted : Char → Bool) (inComment : Bool) : Nat → List Char → List Char × List Char
  | _, [] => ([], [])
  | room, c :: rest =>
      if inComment then gather spaced wanted (c ≠ '\n') room rest
      else
        match room with
        | 0 => ([], c :: rest)
        | room + 1 =>
            if spaced && isBlank c then gather spaced wanted false (room + 1) rest
            else if spaced && c = '#' then gather spaced wanted true (room + 1) rest
            else if wanted c then
              let (taken, left) := gather spaced wanted false room rest
              (c :: taken, left)
            else ([], c :: rest)

def gatherAll (spaced : Bool) (wanted : Char → Bool) (text : List Char) : List Char × List Char :=
  gather spaced wanted false text.length text

end PathTemplates.Regex
