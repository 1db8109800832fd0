/-!
# Environment variables in configuration texts

A configuration text may mention variables as `${NAME}` or `${NAME:-default}`.  `pieces` cuts a
text, from left to right, into mentions and plain characters; `expand` writes each mention's
value in its place.  What is inserted is never looked at again.
-/

namespace Sidecar

/-- The variables that are set. -/
abbrev Environment := String → Option String

namespace Environment

/-- No variable is set. -/
def empty : Environment := fun _ => none

/-- The variables of a list of pairs. -/
def ofList (pairs : List (String × String)) : Environment := fun name => pairs.lookup name

/-- Set a variable, or unset it. -/
def update (env : Environment) (name : String) (value : Option String) : Environment :=
  fun n => if n = name then value else env n

/-- A piece of a text. -/
inductive Piece where
  /-- A character that belongs to no mention. -/
  | char (c : Char)
  /-- A mention of a variable. -/
  | mention (name : String) (default : Option String)
  deriving DecidableEq, Repr

/-- A character that a name may begin with. -/
def isNameStart (c : Char) : Bool := c.isAlpha || c == '_'

/-- A character of names. -/
def isNameChar (c : Char) : Bool := c.isAlphanum || c == '_'

/-- A mention, after its dollar sign and brace, and what follows it. -/
def mention? (cs : List Char) : Option (Piece × List Char) :=
  let name := cs.takeWhile isNameChar
  if name.head?.any isNameStart then
    match cs.dropWhile isNameChar with
    | '}' :: rest => some (.mention (String.ofList name) none, rest)
    | ':' :: '-' :: rest =>
      match rest.dropWhile (· != '}') with
      | '}' :: after =>
        some (.mention (String.ofList name) (some (String.ofList (rest.takeWhile (· != '}')))), after)
      | _ => none
    | _ => none
  else none

/-- The pieces of a text.  Each takes at least one character, so the length bounds their
number. -/
def piecesAux : (fuel : Nat) → List Char → List Piece
  | 0, _ => []
  | _ + 1, [] => []
  | fuel + 1, c :: cs =>
    match c, cs with
    | '$', '{' :: rest =>
      match mention? rest with
      | some (p, after) => p :: piecesAux fuel after
      | none => .char c :: piecesAux fuel cs
    | _, _ => .char c :: piecesAux fuel cs

/-- The pieces of a text. -/
def pieces (s : String) : List Piece := piecesAux s.length s.toList

/-- The pieces with each mention replaced: by the variable's value, else by its own default; a
variable with neither is the error. -/
def expandPieces (env : Environment) : List Piece → Except String (List Char)
  | [] => .ok []
  | .char c :: ps => (expandPieces env ps).map (c :: ·)
  | .mention name default :: ps =>
    match (env name).or default with
    | some value => (expandPieces env ps).map (value.toList ++ ·)
    | none => .error name

/-- A text with its mentions replaced, or the first variable that has no value. -/
def expand (env : Environment) (s : String) : Except String String :=
  (expandPieces env (pieces s)).map String.ofList

end Environment

end Sidecar
