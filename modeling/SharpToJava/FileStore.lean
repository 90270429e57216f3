import SharpToJava.Compiler
import SharpToJava.Dump.Reader

/-!
Compiling from file to file, over a store of text files. The output file is written only when
everything else has succeeded.
-/

namespace SharpToJava

/-- The text of each file that exists. -/
abbrev FileStore : Type := String → Option String

namespace FileStore

def write (store : FileStore) (path text : String) : FileStore :=
  fun other => if other = path then some text else store other

/-- Why a file was not compiled. -/
inductive Failure where
  | fileNotFound
  | invalidDump (issues : List Issue)
  | fault (fault : Fault)
  deriving DecidableEq, Repr

/-- Compiles the dump in one file and writes the text to another. Without a target no file is
touched. -/
def compile (store : FileStore) (input output : String) (target : Option Target)
    (enforce : Bool) : Except Failure Output × FileStore :=
  if target.isNone then (.ok { failed := true }, store)
  else
    match store input with
    | none => (.error .fileNotFound, store)
    | some text =>
      match Dump.parse text with
      | .error issues => (.error (.invalidDump issues), store)
      | .ok root =>
        match SharpToJava.compile root target enforce with
        | .error fault => (.error (.fault fault), store)
        | .ok result => (.ok result, store.write output result.text)

end FileStore

end SharpToJava
