import DossierCompliance.File.Basic

/-!
A tree of files below a working directory. Paths are followed part by part:
every part but the last has to be a directory, a name that is too long is
noticed where it is looked up, and outside of the working directory nothing is
found but the directories around it.
-/

namespace DossierCompliance

/-- Files by the parts of their paths; a directory has no content. -/
structure FileTree where
  entries : List (List (List Char) × Option (List UInt8))

namespace FileTree

/-- Names with the contents of files, or with nothing for a directory. -/
def ofNames (names : List (String × Option (List UInt8))) : FileTree where
  entries := names.map fun (name, content) =>
    ((File.pathParts name).filter fun part => !File.isIdle part, content)

/-- What is at a place. The directories on the way to an entry exist with it. -/
def content (t : FileTree) (place : List (List Char)) : FileContent :=
  match t.entries.find? fun entry => entry.1 == place with
  | some (_, some bytes) => .bytes bytes
  | some (_, none) => .directory
  | none =>
    if place.isEmpty || t.entries.any (fun entry => place.isPrefixOf entry.1) then .directory
    else .failed .missing

/-- Follows the parts of a path from a directory around the working directory. -/
def followOutside : List (List Char) → FileContent
  | [] => .directory
  | part :: rest =>
    if File.isIdle part || part == ['.', '.'] then followOutside rest
    else .failed (if File.isNameTooLong part then .nameTooLong else .missing)

/-- Follows the parts of a path from a place. -/
def follow (t : FileTree) (place : List (List Char)) : List (List Char) → FileContent
  | [] => t.content place
  | part :: rest =>
    match t.content place with
    | .bytes _ => .failed .notDirectory
    | .failed why => .failed why
    | .directory =>
      if File.isIdle part then follow t place rest
      else if part == ['.', '.'] then
        if place.isEmpty then followOutside rest else follow t place.dropLast rest
      else if File.isNameTooLong part then .failed .nameTooLong
      else follow t (place ++ [part]) rest

def files (t : FileTree) : Files := fun path =>
  let cs := path.toList
  if cs.contains '\x00' then .failed .badName
  else if cs.isEmpty then .failed .missing
  else if File.longestPath < path.utf8ByteSize then .failed .nameTooLong
  else if cs.head? == some '/' then followOutside (File.pathParts path)
  else t.follow [] (File.pathParts path)

end FileTree

end DossierCompliance
