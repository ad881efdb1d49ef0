import Headset.Config.Document

/-!
# Configuration files

Where the text of a configuration comes from.  A `Folder` stands for a directory without
subdirectories, and says what reading a path in it gives; `Config.ofFile` says what becomes of that.
-/

namespace Headset

/-- Why a file cannot be read. -/
inductive FileFault where
  | notFound
  | notDirectory
  | isDirectory
  | nameTooLong
  /-- The path holds a zero character. -/
  | zeroInName
  deriving DecidableEq, Repr, Inhabited

def FileFault.message : FileFault → String
  | .notFound => "No such file or directory (os error 2)"
  | .notDirectory => "Not a directory (os error 20)"
  | .isDirectory => "Is a directory (os error 21)"
  | .nameTooLong => "File name too long (os error 36)"
  | .zeroInName => "file name contained an unexpected NUL byte"

/-- A directory without subdirectories: its files by name. -/
structure Folder where
  files : List (String × List UInt8)
  deriving Inhabited

namespace Folder

/-- The parts of a path between its slashes. -/
def parts : List Char → List (List Char)
  | [] => [[]]
  | c :: rest =>
    match parts rest with
    | [] => [[c]]
    | part :: parts => if c = '/' then [] :: part :: parts else (c :: part) :: parts

/-- What the parts of a path lead to.  A file may be the last part only, without a slash behind it.
Directories outside the folder are taken to hold no files. -/
def follow (f : Folder) : List (List Char) → Except FileFault (List UInt8)
  | [] => .error .isDirectory
  | part :: rest =>
    if part = [] ∨ part = ['.'] then f.follow rest
    else if part = ['.', '.'] then follow ⟨[]⟩ rest
    else if 255 < (String.ofList part).utf8ByteSize then .error .nameTooLong
    else match f.files.lookup (String.ofList part) with
    | none => .error .notFound
    | some bytes => if rest = [] then .ok bytes else .error .notDirectory

def read (f : Folder) (path : String) : Except FileFault (List UInt8) :=
  if path.toList.contains '\x00' then .error .zeroInName
  else if path.isEmpty then .error .notFound
  else if 4096 ≤ path.utf8ByteSize then .error .nameTooLong
  else if path.toList.head? = some '/' then follow ⟨[]⟩ (parts path.toList)
  else f.follow (parts path.toList)

end Folder

namespace Config

/-- The configuration of a file: what reading it gave under this path. -/
def ofFile (path : String) (file : Except FileFault (List UInt8)) : Except ConfigError Config :=
  match file with
  | .error f => .error (.unreadable path f.message)
  | .ok bytes =>
    match String.fromUTF8? (ByteArray.mk bytes.toArray) with
    | none => .error (.unreadable path "stream did not contain valid UTF-8")
    | some text => read text

end Config

end Headset
