import Flotation.Named
import Flotation.Text

/-! Files, the paths that lead to them, and the permission to add to them. -/
namespace Flotation
namespace Directory

/-- The name of the file that a path leads to where there are no other directories. Points for
the directory itself may come first; any other directory is missing, and the directory itself is
no file. A path ends at its first null character and has at most 4095 bytes up to there, a name at
most 255. -/
def fileName? (path : String) : Option String :=
  let path := Text.beforeNull path
  match (path.splitOn "/").reverse with
  | [] => none
  | name :: parents =>
    let here : Bool := parents.all (fun p => p == "." || p == "") && parents.getLast? != some ""
    let short : Bool := path.utf8ByteSize ≤ 4095 && name.utf8ByteSize ≤ 255
    if here && name != "" && name != "." && name != ".." && short then some name else none

end Directory

/-- Files by their full names, in the order of creation. `locate` gives the full name of the file that a
path leads to, if there is one or one can be made there; `writable` says of a full name whether that file
may be added to. Both are settled outside the program, which makes no directories and grants no
permissions. Unless they are given, there is one directory and nothing is forbidden. -/
structure Directory where
  files : Named String := {}
  locate : String → Option String := Directory.fileName?
  writable : String → Bool := fun _ => true

namespace Directory

/-- The contents of a file. -/
def contents? (d : Directory) (path : String) : Option String := do
  d.files.get? (← d.locate path)

/-- Set the contents of a file; nothing happens if there cannot be one. -/
def write (d : Directory) (path contents : String) : Directory :=
  match d.locate path with
  | none => d
  | some name => { d with files := d.files.put name contents }

/-- Add to the end of a file, which is made if it is missing. -/
def append (d : Directory) (path text : String) : Directory :=
  d.write path ((d.contents? path).getD "" ++ text)

/-- Whether a file can be opened to add to it. -/
def opens (d : Directory) (path : String) : Bool := (d.locate path).any d.writable

/-- Open a file to add to it: it exists from then on, if it can be opened. -/
def openAppend? (d : Directory) (path : String) : Option Directory :=
  if d.opens path then some (d.append path "") else none

variable {d : Directory} {path : String}

@[simp] theorem locate_write (d : Directory) (path contents : String) :
    (d.write path contents).locate = d.locate := by
  rw [write]
  split <;> rfl

@[simp] theorem writable_write (d : Directory) (path contents : String) :
    (d.write path contents).writable = d.writable := by
  rw [write]
  split <;> rfl

theorem contents?_write (h : (d.locate path).isSome = true) (contents : String) :
    (d.write path contents).contents? path = some contents := by
  obtain ⟨name, hn⟩ := Option.isSome_iff_exists.mp h
  simp only [contents?, write, hn]
  exact d.files.get?_put_self name contents

theorem contents?_append (h : (d.locate path).isSome = true) (text : String) :
    (d.append path text).contents? path = some ((d.contents? path).getD "" ++ text) :=
  contents?_write h _

theorem locate_isSome_of_contents? {contents : String} (h : d.contents? path = some contents) :
    (d.locate path).isSome = true := by
  cases hn : d.locate path with
  | none =>
    rw [contents?, hn] at h
    cases h
  | some name => rfl

theorem locate_isSome_of_opens (h : d.opens path = true) : (d.locate path).isSome = true := by
  rw [opens] at h
  cases hn : d.locate path with
  | none =>
    rw [hn] at h
    cases h
  | some name => rfl

end Directory
end Flotation
