/-! Files that hold route tables. -/
namespace Routing.CommandLine

inductive FileFault
  | missing
  | folder
  | notFolder
  | nameTooLong
  | nulInName
  | notText
  | other (reason : String)
deriving DecidableEq, Repr

def FileFault.message : FileFault → String
  | missing => "No such file or directory (os error 2)"
  | folder => "Is a directory (os error 21)"
  | notFolder => "Not a directory (os error 20)"
  | nameTooLong => "File name too long (os error 36)"
  | nulInName => "file name contained an unexpected NUL byte"
  | notText => "stream did not contain valid UTF-8"
  | other reason => reason

def textOf (bytes : ByteArray) : Except FileFault String :=
  match String.fromUTF8? bytes with
  | some text => .ok text
  | none => .error .notText

/-- The parts of a path that lead somewhere. -/
def pathParts (path : String) : List String :=
  ((path.split (· == '/')).toList.map (·.toString)).filter fun part => part != "" && part != "."

/-- What stands behind the last dot of a file's name, if something stands before it. -/
def extension? (path : String) : Option String := do
  let name ← (pathParts path).getLast?
  if name = ".." then none
  let letters := name.toList.reverse
  match letters.dropWhile (· != '.') with
  | [] | [_] => none
  | _ => some (String.ofList (letters.takeWhile (· != '.')).reverse)

/-- A folder of files, in which paths begin. A later file takes the place of one with its name. -/
structure Folder where
  files : List (String × ByteArray)

def Folder.read (folder : Folder) (path : String) : Except FileFault ByteArray :=
  let find name := folder.files.reverse.lookup name
  let absolute := path.startsWith "/"
  if path.any (· == '\x00') then .error .nulInName
  else if 4096 ≤ path.utf8ByteSize then .error .nameTooLong
  else
    match pathParts path with
    | [] | [".."] => .error .folder
    | part :: rest =>
      if 255 < part.utf8ByteSize then .error .nameTooLong
      else
        match if absolute then none else find part with
        | none => .error .missing
        | some bytes =>
          if rest.isEmpty && !(path.endsWith "/" || path.endsWith "/.") then .ok bytes
          else .error .notFolder

end Routing.CommandLine
