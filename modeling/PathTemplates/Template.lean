import PathTemplates.Params
import PathTemplates.RegistrationError
import PathTemplates.Requirements
import PathTemplates.Segment
import PathTemplates.Text.Pieces

set_option autoImplicit false

/-!
From a template to its segments. A template is a list of tokens with slashes between them: `:name` is a dynamic
placeholder, `*name` a glob, and anything else stands for itself. Empty tokens do not count.
-/

namespace PathTemplates

/-- What a registrar gives for one route. -/
structure Declaration where
  template : String
  defaults : Params := .empty
  requirements : Requirements := .empty
  deriving DecidableEq, Repr

inductive Token where
  | literal (text : String)
  | placeholder (kind : PlaceholderKind) (name : String)
  deriving DecidableEq, Repr

namespace Token

def ofText (text : String) : Token :=
  match text.toList with
  | ':' :: name => .placeholder .dynamic (String.ofList name)
  | '*' :: name => .placeholder .glob (String.ofList name)
  | _ => .literal text

def ofTemplate (template : String) : List Token := (Text.components template).map ofText

end Token

namespace Template

-- What the placeholders to the left have taken: their names, and the name of the glob among them.
structure Taken where
  names : List String := []
  glob : Option String := none
  deriving DecidableEq, Repr

def isNameChar (c : Char) : Bool := c.isAlphanum || c = '_'

-- The first objection to a placeholder behind those to its left. Nothing but literals may follow a glob, since it could
-- not be told where its value ends.
def objection? (template : String) (taken : Taken) (kind : PlaceholderKind) (name : String) :
    Option RegistrationError :=
  if name = "" then some (.emptyName template)
  else if !name.toList.all isNameChar then some (.invalidName template name)
  else if taken.names.contains name then some (.duplicateSegment template name)
  else
    match taken.glob, kind with
    | none, _ => none
    | some _, .glob => some (.multipleGlobs template)
    | some glob, .dynamic => some (.globBeforeDynamic template glob name)

def Taken.add (taken : Taken) (kind : PlaceholderKind) (name : String) : Taken where
  names := name :: taken.names
  glob := if kind = .glob then some name else taken.glob

def derivedRequirement (kind : PlaceholderKind) (name : String) : Requirement :=
  match kind with
  | .glob => .anything
  | .dynamic => if name = "controller" then .manyComponents else .oneComponent

def impliedPresence (explicit : Bool) (kind : PlaceholderKind) (name : String) : Presence :=
  match kind with
  | .glob => .optional none
  | .dynamic =>
      if explicit then .required
      else if name = "action" then .optional (some (.text "index"))
      else if name = "id" then .optional none
      else .required

def requirement (pattern : Option String) (kind : PlaceholderKind) (name : String) :
    Except RegistrationError Requirement :=
  match pattern with
  | none => .ok (derivedRequirement kind name)
  | some pattern =>
      match Requirement.ofPattern? pattern with
      | some requirement => .ok requirement
      | none => .error (.invalidRequirement name pattern)

def placeholder (declaration : Declaration) (explicit : Bool) (kind : PlaceholderKind) (name : String) :
    Except RegistrationError Placeholder := do
  let requirement ← requirement (declaration.requirements.pattern? name) kind name
  let presence :=
    if declaration.defaults.declares name then .optional (declaration.defaults.value? name)
    else impliedPresence explicit kind name
  return ⟨kind, name, requirement, presence⟩

def consLiteral (text : String) : List Segment → List Segment
  | .literal next :: rest => .literal (text ++ "/" ++ next) :: rest
  | segments => .literal text :: segments

-- The segments of tokens, or the objection to the leftmost token that has one.
def place (declaration : Declaration) (explicit : Bool) :
    Taken → List Token → Except RegistrationError (List Segment)
  | _, [] => .ok []
  | taken, .literal text :: rest => do
      return consLiteral text (← place declaration explicit taken rest)
  | taken, .placeholder kind name :: rest => do
      if let some error := objection? declaration.template taken kind name then throw error
      let first ← placeholder declaration explicit kind name
      return .slot first :: (← place declaration explicit (taken.add kind name) rest)

def strayRequirement? (requirements : Requirements) (segments : List Segment) : Option String :=
  (requirements.toList.map (·.1)).find? fun name => !(segments.filterMap (·.name?)).contains name

def segments (declaration : Declaration) (explicit : Bool) : Except RegistrationError (List Segment) := do
  let segments ← place declaration explicit {} (Token.ofTemplate declaration.template)
  match strayRequirement? declaration.requirements segments with
  | some name => throw (.unknownRequirement declaration.template name)
  | none => return segments

end Template

end PathTemplates
