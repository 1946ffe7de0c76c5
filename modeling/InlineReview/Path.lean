import InlineReview.Text.Blank

/-!
# Paths

A path is an anchor and a list of parts.  Reading one drops empty parts and parts that are a
single dot, and keeps parts that are two dots; of leading slashes exactly two are told apart from
one.  `Path.components` resolves the two dots of a path seen from the root directory, and
`Path.relative` is the way from one directory to a path.
-/

namespace InlineReview

open Text

/-- What a path starts with. -/
inductive Anchor where
  | none
  | slash
  | twoSlashes
  deriving DecidableEq, Repr

/-- The text of an anchor. -/
def Anchor.text : Anchor → String
  | .none => ""
  | .slash => "/"
  | .twoSlashes => "//"

/-- A path. -/
structure Path where
  anchor : Anchor
  parts : List String
  deriving DecidableEq, Repr

namespace Path

/-- The part that names the directory above. -/
def above : String := ".."

/-- The parts of a text between slashes that are neither empty nor a single dot. -/
def partsOf (s : List Char) : List String :=
  ((pieces '/' s).map String.ofList).filter fun p => p != "" && p != "."

/-- The anchor of a text. -/
def anchorOf : List Char → Anchor
  | '/' :: '/' :: '/' :: _ => .slash
  | '/' :: '/' :: _ => .twoSlashes
  | '/' :: _ => .slash
  | _ => .none

/-- Reads a path. -/
def ofText (s : String) : Path where
  anchor := anchorOf s.toList
  parts := partsOf s.toList

/-- The text of a path: a single dot if there is nothing else. -/
def text (p : Path) : String :=
  let body := p.anchor.text ++ String.intercalate "/" p.parts
  if body = "" then "." else body

/-- Does a path start at the root? -/
def isAbsolute (p : Path) : Bool := p.anchor != .none

/-- A path seen from a directory: an absolute one stays as it is. -/
def join (directory p : Path) : Path :=
  if p.isAbsolute then p else { directory with parts := directory.parts ++ p.parts }

/-- Takes one part after the components so far: two dots go up, but not above the root. -/
def step (components : List String) (part : String) : List String :=
  if part = above then components.dropLast else components ++ [part]

/-- The components of a path seen from the root directory, without two dots. -/
def components (p : Path) : List String := p.parts.foldl step []

/-- A place in the file system: the components of a path seen from the root directory.  The root
with two slashes is another one. -/
structure Place where
  twoSlashes : Bool
  components : List String
  deriving DecidableEq, Repr

/-- The place that a path names. -/
def place (p : Path) : Place where
  twoSlashes := p.anchor = .twoSlashes
  components := p.components

/-- Does a place lie in a directory? -/
def Place.isInside (directory p : Place) : Bool :=
  directory.twoSlashes == p.twoSlashes && directory.components.length < p.components.length &&
    directory.components.isPrefixOf p.components

/-- The way from the components of a directory to those of a path: up from what they do not
share, then down. -/
def wayFrom : (root target : List String) → List String
  | a :: root, b :: target =>
    if a = b then wayFrom root target
    else List.replicate (root.length + 1) above ++ b :: target
  | root, target => List.replicate root.length above ++ target

/-- The way from a directory to a path. -/
def relative (root target : Path) : Path where
  anchor := .none
  parts := wayFrom root.components target.components

end Path

end InlineReview
