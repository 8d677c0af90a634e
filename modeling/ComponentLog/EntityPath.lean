import ComponentLog.Error
import ComponentLog.Text.Blank

/-!
# Entity paths

What a piece of data describes, as a list of parts. The text form puts a slash in
front of each part and is a single slash for the root. Reading trims blanks, takes a
leading slash as optional and refuses empty segments.
-/

namespace ComponentLog

structure EntityPath where
  parts : List String
  deriving DecidableEq, Repr

namespace EntityPath

def root : EntityPath := ⟨[]⟩

def isRoot (p : EntityPath) : Bool := p.parts.isEmpty

/-- The path without its last part; the root has no parent. -/
def parent? (p : EntityPath) : Option EntityPath :=
  if p.parts.isEmpty then none else some ⟨p.parts.dropLast⟩

/-- All paths above, nearest first. -/
def ancestors (p : EntityPath) : List EntityPath :=
  (List.range p.parts.length).reverse.map fun n => ⟨p.parts.take n⟩

/-- The path with one more part. -/
def join (p : EntityPath) (part : String) : EntityPath := ⟨p.parts ++ [part]⟩

def display (p : EntityPath) : String :=
  if p.parts.isEmpty then "/"
  else String.join (p.parts.map ("/" ++ ·))

/-- Segments between slashes; text without a slash is one segment. -/
def segments : List Char → List (List Char)
  | [] => [[]]
  | c :: cs =>
    if c = '/' then [] :: segments cs
    else match segments cs with
      | [] => [[c]]
      | s :: rest => (c :: s) :: rest

/-- The text without one leading slash. -/
def dropSlash : List Char → List Char
  | '/' :: cs => cs
  | cs => cs

def parse (text : String) : Except Error EntityPath :=
  let trimmed := Text.trim text.toList
  if trimmed.isEmpty then .error (.invalidEntityPath text .empty)
  else
    let body := dropSlash trimmed
    if body.isEmpty then .ok root
    else if (segments body).any List.isEmpty then .error (.invalidEntityPath text .emptySegment)
    else .ok ⟨(segments body).map String.ofList⟩

/-- Order part by part, each part by its characters; a path comes before those below it. -/
def le (p q : EntityPath) : Bool := leParts p.parts q.parts
where
  leParts : List String → List String → Bool
    | [], _ => true
    | _ :: _, [] => false
    | s :: ss, t :: ts => if s = t then leParts ss ts else s < t

end EntityPath

end ComponentLog
