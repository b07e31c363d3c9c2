import TriplesSql.Select.Literal

namespace TriplesSql.Select

open Reader

def textInParens : Reader String := inParens literalText

def withText (key s : String) : String := key ++ "('" ++ s ++ "')"

def maybeWithText (key : String) : Reader String := do
  if ← atSymbol "(" then return withText key (← textInParens) else return key

structure OutputOption where
  name : String
  text : String

/-- The options of an output format with a comma in front of each. A comma may stand without an
option behind it. Of two options with one name the last one counts. -/
def outputOptions (option : Reader (Option OutputOption)) (names : List String) :
    Reader (List String) := do
  let found ← many do
    if ← trySymbol "," then return some (← option) else return none
  let options := (found.filterMap id).reverse.map fun o => (o.name, o.text)
  return names.filterMap fun n => options.lookup n

def xmlOption : Reader (Option OutputOption) := do
  match ← tryOneOf ["ELEMENTS", "BINARY", "ROOT", "TYPE"] with
  | some "BINARY" =>
    keyword "BASE64"
    return some ⟨"BINARY", "BINARY BASE64"⟩
  | some "ROOT" => return some ⟨"ROOT", withText "ROOT" (← textInParens)⟩
  | some key => return some ⟨key, key⟩
  | none => return none

def jsonOption : Reader (Option OutputOption) := do
  match ← tryOneOf ["ROOT", "INCLUDE_NULL_VALUES", "WITHOUT_ARRAY_WRAPPER"] with
  | some "ROOT" => return some ⟨"ROOT", withText "ROOT" (← textInParens)⟩
  | some key => return some ⟨key, key⟩
  | none => return none

def tryOutputFormat : Reader (Option Tree) := do
  match ← tryOneOf ["XML", "JSON", "BROWSE"] with
  | some "XML" =>
    let shape ← match ← oneOf ["RAW", "AUTO", "EXPLICIT", "PATH"] with
      | "RAW" => maybeWithText "RAW"
      | "PATH" => maybeWithText "PATH"
      | key => pure key
    let options ← outputOptions xmlOption ["BINARY", "TYPE", "ROOT", "ELEMENTS"]
    return some (.word (", ".intercalate (("FOR XML " ++ shape) :: options)))
  | some "JSON" =>
    let shape ← oneOf ["AUTO", "PATH"]
    let options ← outputOptions jsonOption
      ["ROOT", "INCLUDE_NULL_VALUES", "WITHOUT_ARRAY_WRAPPER"]
    return some (.word (", ".intercalate (("FOR JSON " ++ shape) :: options)))
  | some _ => return some (.word "FOR BROWSE")
  | none => return none

end TriplesSql.Select
