import InlineReview.Assoc
import InlineReview.Path
import InlineReview.Text.Lines
import InlineReview.Text.Quoted
import InlineReview.Text.Utf8

/-!
# Files

A store holds files at places.  A place under which others lie is a directory.  Reading a text
file decodes UTF-8 and then takes a carriage return, alone or before a newline, for a newline.
Whether a file can be removed is another question than whether it can be read.
-/

namespace InlineReview

open Text

/-- Why a file cannot be read or removed. -/
inductive FileCause where
  | missing
  | directory
  | denied
  deriving DecidableEq, Repr

/-- The wording of a cause. -/
def FileCause.text : FileCause → String
  | .missing => "[Errno 2] No such file or directory"
  | .directory => "[Errno 21] Is a directory"
  | .denied => "[Errno 13] Permission denied"

/-- A file that cannot be read or removed, under the path by which it was asked for. -/
structure FileFault where
  cause : FileCause
  path : String
  deriving DecidableEq, Repr

/-- The wording of a fault. -/
def FileFault.message (f : FileFault) : String := s!"{f.cause.text}: {quoted f.path}"

/-- What is at a place.  A file that is kept can be read and not removed, and what is refused can
be neither. -/
inductive FileEntry where
  | content (octets : List UInt8)
  | kept (octets : List UInt8)
  | refused (cause : FileCause)
  deriving DecidableEq, Repr

/-- A store of files. -/
abbrev FileStore := List (Path.Place × FileEntry)

namespace FileStore

/-- What a path leads to where no file is. -/
def absence (store : FileStore) (path : Path) : FileCause :=
  if store.any fun (p, _) => path.place.isInside p then .directory else .missing

/-- The octets of a file. -/
def octets (store : FileStore) (path : Path) : Except FileFault (List UInt8) :=
  match Assoc.get? path.place store with
  | some (.content octets) => .ok octets
  | some (.kept octets) => .ok octets
  | some (.refused cause) => .error { cause, path := path.text }
  | none => .error { cause := store.absence path, path := path.text }

/-- Puts a file into the store. -/
def write (store : FileStore) (path : Path) (octets : List UInt8) : FileStore :=
  Assoc.put path.place (.content octets) store

/-- Why what a path leads to cannot be removed; that nothing is there is no fault. -/
def removalFault? (store : FileStore) (path : Path) : Option FileFault :=
  let cause? : Option FileCause :=
    match Assoc.get? path.place store with
    | some (.content _) => none
    | some (.kept _) => some .denied
    | some (.refused cause) => some cause
    | none => some (store.absence path)
  (cause?.filter (· ≠ .missing)).map fun cause => { cause, path := path.text }

/-- Removes a file; nothing happens if there is none. -/
def remove (store : FileStore) (path : Path) : FileStore := Assoc.erase path.place store

/-- Is there a file at this path? -/
def holds (store : FileStore) (path : Path) : Bool := (Assoc.get? path.place store).isSome

/-- Why a text file cannot be read. -/
inductive TextFault where
  | file (fault : FileFault)
  | decoding (fault : DecodeFault)
  deriving DecidableEq, Repr

/-- The wording of a fault. -/
def TextFault.message : TextFault → String
  | .file fault => fault.message
  | .decoding fault => fault.message

/-- The text of a file, which must be UTF-8. -/
def text (store : FileStore) (path : Path) : Except TextFault (List Char) :=
  match store.octets path with
  | .error fault => .error (.file fault)
  | .ok octets =>
    match Utf8.decode octets with
    | .error fault => .error (.decoding fault)
    | .ok s => .ok (unifyNewlines s)

/-- The text of a file, with the replacement character where it is not UTF-8. -/
def textReplacing (store : FileStore) (path : Path) : Except FileFault (List Char) :=
  (store.octets path).map fun octets => unifyNewlines (Utf8.decodeReplacing octets)

end FileStore

end InlineReview
