/-!
# String templates

A template is literal text with `{column}` placeholders. A backslash before any character but
a line feed takes that character literally. Reading gives the segments of a template; a segment list
is normal if reading some template gives it, and printing writes such a template.
-/

namespace TriplesSql.Template

inductive Segment where
  | literal (text : String)
  | column (name : String)
  deriving DecidableEq, Repr

/-- What is wrong with a template, at an offset that counts bytes of UTF-8. -/
inductive Fault where
  | emptyPlaceholder (offset : Nat)
  | unbalanced (brace : Char) (offset : Nat)
  deriving DecidableEq, Repr

structure Malformed where
  template : String
  fault : Fault
  deriving DecidableEq, Repr

def Fault.message : Fault → String
  | .emptyPlaceholder offset => "empty placeholder at offset " ++ toString offset
  | .unbalanced brace offset =>
    "unbalanced '" ++ brace.toString ++ "' at offset " ++ toString offset

def Malformed.message (e : Malformed) : String :=
  "Invalid template '" ++ e.template ++ "': " ++ e.fault.message

/-- The smallest parts of a template. A brace is a piece of its own where it opens or closes no
placeholder. -/
inductive Piece where
  | char (c : Char)
  | escape (c : Char)
  | placeholder (name : List Char)
  | brace (c : Char)
  deriving DecidableEq, Repr

def Piece.source : Piece → List Char
  | .char c => [c]
  | .escape c => ['\\', c]
  | .placeholder name => '{' :: name ++ ['}']
  | .brace c => [c]

def Piece.size (p : Piece) : Nat := p.source.foldr (fun c n => c.utf8Size + n) 0

def name? : List Char → Option (List Char)
  | [] => none
  | c :: cs =>
    if c = '}' then some []
    else if c = '{' ∨ c = '\\' then none
    else (name? cs).map (c :: ·)

def frontPiece (c : Char) (cs : List Char) : Piece :=
  match c, cs with
  | '\\', [] => .char c
  | '\\', d :: _ => if d = '\n' then .char c else .escape d
  | '{', _ =>
    match name? cs with
    | some name => .placeholder name
    | none => .brace c
  | '}', _ => .brace c
  | _, _ => .char c

/-- The pieces of a text behind its first `skip` characters, which belong to a piece before. -/
def piecesBehind : Nat → List Char → List Piece
  | _, [] => []
  | skip + 1, _ :: cs => piecesBehind skip cs
  | 0, c :: cs =>
    let p := frontPiece c cs
    p :: piecesBehind (p.source.length - 1) cs

def pieces (template : String) : List Piece := piecesBehind 0 template.toList

def addChar (c : Char) : List Segment → List Segment
  | .literal text :: segments => .literal (String.ofList (c :: text.toList)) :: segments
  | segments => .literal (String.ofList [c]) :: segments

def segmentsAt (offset : Nat) : List Piece → Except Fault (List Segment)
  | [] => .ok []
  | p :: ps =>
    match p with
    | .char c | .escape c => (segmentsAt (offset + p.size) ps).map (addChar c)
    | .placeholder [] => .error (.emptyPlaceholder offset)
    | .placeholder name =>
      (segmentsAt (offset + p.size) ps).map (.column (String.ofList name) :: ·)
    | .brace c => .error (.unbalanced c offset)

def parse (template : String) : Except Malformed (List Segment) :=
  (segmentsAt 0 (pieces template)).mapError fun fault => ⟨template, fault⟩

/-- The names in the well-formed placeholders of a template, each once, in order of first
appearance. The template itself may be malformed. -/
def columns (template : String) : List String :=
  ((pieces template).filterMap fun
    | .placeholder (c :: cs) => some (String.ofList (c :: cs))
    | _ => none).eraseDups

def printChar (c : Char) : List Char :=
  if c = '{' ∨ c = '}' ∨ c = '\\' then ['\\', c] else [c]

def Segment.print : Segment → List Char
  | .literal text => text.toList.flatMap printChar
  | .column name => '{' :: name.toList ++ ['}']

def print (segments : List Segment) : String := String.ofList (segments.flatMap Segment.print)

end TriplesSql.Template
