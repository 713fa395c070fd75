import Colloquy.Fault
import Colloquy.Text.Parts

/-! # Paths and files

What the library sees of a disk: the entries below the working directory and below the home
directory. Paths are read as they are written, without empty parts and single points; going up from
a directory is only possible where the directory exists. Names and paths past a limit are refused, a
name only in a directory that exists.
-/
set_option autoImplicit false

namespace Colloquy

structure Path where
  root : String := ""
  parts : List String
deriving DecidableEq, Repr

namespace Path

/-- Two slashes in front are a root of their own; one, three and more are the same root. -/
def rootOf : List Char → String
  | '/' :: '/' :: '/' :: _ => "/"
  | '/' :: '/' :: _ => "//"
  | '/' :: _ => "/"
  | _ => ""

def ofText (s : String) : Path where
  root := rootOf s.toList
  parts := ((Text.parts '/' s.toList).map String.ofList).filter fun part => part ≠ "" ∧ part ≠ "."

/-- A path with neither root nor parts is the directory itself. -/
def text (p : Path) : String :=
  if p.root = "" ∧ p.parts = [] then "." else p.root ++ String.intercalate "/" p.parts

end Path

inductive DiskEntry where
  | file (octets : List UInt8)
  | directory

/-- The entries below a directory, by the parts of their paths. Directories on the way to an entry
need not be listed. -/
abbrev Directory := List (List String × DiskEntry)

namespace Directory

def at? (d : Directory) (place : List String) : Option DiskEntry :=
  match d.find? fun e => e.1 = place with
  | some (_, entry) => some entry
  | none =>
    if place.isEmpty ∨ d.any fun e => place.isPrefixOf e.1 then some .directory else none

def isDirectory (d : Directory) (place : List String) : Bool :=
  match d.at? place with
  | some .directory => true
  | _ => false

def isTooLong (name : String) : Bool :=
  255 < name.utf8ByteSize

/-- Where a path leads from `place`, `above` levels over the directory. Nothing is known of what
lies above or beside it. -/
def walk (d : Directory) :
    (above : Nat) → (place : List String) → List String → Except Fault (Option DiskEntry)
  | 0, place, [] => .ok (d.at? place)
  | _ + 1, _, [] => .ok (some .directory)
  | above + 1, place, part :: rest =>
    if isTooLong part then .error .nameTooLong
    else if part = ".." then walk d (above + 2) place rest
    else .ok none
  | 0, place, part :: rest =>
    if !d.isDirectory place then .ok none
    else if isTooLong part then .error .nameTooLong
    else if part ≠ ".." then walk d 0 (place ++ [part]) rest
    else if place.isEmpty then walk d 1 [] rest
    else walk d 0 place.dropLast rest

end Directory

structure Disk where
  here : Directory := []
  home : Directory := []
  /-- Entries known by the very path under which they are asked for. -/
  named : List (Path × DiskEntry) := []

namespace Disk

def pathLimit : Nat := 4096

/-- What a path leads to. Of absolute paths only the root is known, and those named. -/
def find? (disk : Disk) (p : Path) : Except Fault (Option DiskEntry) :=
  match disk.named.find? fun e => e.1 = p with
  | some (_, entry) => .ok (some entry)
  | none =>
    if p.text.toList.contains '\x00' then .ok none
    else if pathLimit ≤ p.text.utf8ByteSize then .error .nameTooLong
    else if p.root = "" then disk.here.walk 0 [] p.parts
    else match p.parts.find? fun part => part ≠ ".." with
      | none => .ok (some .directory)
      | some part => if Directory.isTooLong part then .error .nameTooLong else .ok none

end Disk
end Colloquy
