import InlineTag.Files.Path
import InlineTag.Fault

/-!
# InlineTag.Files.Tree

A tree of regular files and directories, and what is found in it at the end of a path. Here a part
of two points leads back up, and every part before the last must be a directory, as must a part
before a slash.
-/

namespace InlineTag
namespace Files

open Text

inductive Entry where
  | file (content : ByteArray)
  | directory

/-- What stands at a path. -/
inductive Sight where
  | missing
  | notDirectory
  | directory
  | file (content : ByteArray)
  /-- A regular file that cannot be read. -/
  | locked (fault : ReadFault)
  /-- Something that can be read and is no regular file. -/
  | stream (content : ByteArray)
  /-- A path at which nothing can be looked at. -/
  | unreadable (fault : ReadFault)

/-- The files of a tree with their places, and the places of directories. Every place above a file
or a directory is a directory too. -/
structure Tree where
  files : List (List (List Char) × ByteArray)
  directories : List (List (List Char))

namespace Tree

/-- What stands at a place. -/
def entry? (tree : Tree) (place : List (List Char)) : Option Entry :=
  match tree.files.lookup place with
  | some content => some (.file content)
  | none =>
    if place = [] || tree.directories.any place.isPrefixOf ||
        tree.files.any (fun file => place.isPrefixOf file.1) then some .directory
    else none

/-- Follows the parts of a path from a place. -/
def follow (tree : Tree) (place : List (List Char)) :
    List (List Char) → Sight × List (List Char)
  | [] =>
    match tree.entry? place with
    | none => (.missing, place)
    | some .directory => (.directory, place)
    | some (.file content) => (.file content, place)
  | part :: parts =>
    match tree.entry? place with
    | none => (.missing, place)
    | some (.file _) => (.notDirectory, place)
    | some .directory =>
      if isIdle part then tree.follow place parts
      else if part = ['.', '.'] then tree.follow place.dropLast parts
      else tree.follow (place ++ [part]) parts

/-- The fault of a path with a character that no path can have. -/
def badCharacter : ReadFault :=
  .other "file name contained an unexpected NUL byte"

/-- What stands at a path, of which one not from the root begins at `current`. -/
def look (tree : Tree) (current path : List Char) : Sight :=
  if path.contains '\x00' then .unreadable badCharacter
  else if path = [] then .missing
  else (tree.follow [] (pieces '/' (join current path))).1

/-- The path from the root, without any idle part, of the directory at a path. -/
def settle (tree : Tree) (path : List Char) : List Char :=
  '/' :: joined '/' (tree.follow [] (pieces '/' path)).2

end Tree

/-- The text that some bytes are. -/
def textOf (content : ByteArray) : Except ReadFault String :=
  match String.fromUTF8? content with
  | some text => .ok text
  | none => .error .notUnicode

/-- What reading at a path gives. -/
def Sight.text : Sight → Except ReadFault String
  | .missing => .error (.system 2 "NotFound" "No such file or directory")
  | .notDirectory => .error .notDirectory
  | .directory => .error .isDirectory
  | .file content => textOf content
  | .locked fault => .error fault
  | .stream content => textOf content
  | .unreadable fault => .error fault

/-- Whether there is a regular file at a path, be it one that can be read or not. -/
def Sight.isFile : Sight → Bool
  | .file _ => true
  | .locked _ => true
  | _ => false

end Files
end InlineTag
