import Schemata.Files.Path

/-!
# Generated projects

A generation yields files and warnings.  The paths of the files are relative to the output
directory.

* `sizeText_small` - less than a kilobyte is counted in bytes;
* `nearestEven_exact` - a quotient without remainder is not rounded.
-/

namespace Schemata.Generation

/-- The kind of a generated file. -/
inductive OutputKind where
  | source
  | script
  deriving DecidableEq, Repr

/-- The ending of the file name. -/
def OutputKind.ending : OutputKind → String
  | .source => "rs"
  | .script => "sql"

/-- One generated file. -/
structure GeneratedFile where
  /-- Where it goes, relative to the output directory. -/
  path : String
  content : String
  kind : OutputKind
  deriving DecidableEq, Repr

/-- What a generation yields. -/
structure Project where
  files : List GeneratedFile := []
  warnings : List String := []
  deriving DecidableEq, Repr

/-- The files of a kind. -/
def Project.ofKind (p : Project) (kind : OutputKind) : List GeneratedFile :=
  p.files.filter (·.kind = kind)

/-- The file at a path, however the path is written. -/
def Project.file? (p : Project) (path : String) : Option GeneratedFile :=
  p.files.find? fun file => Path.components file.path == Path.components path

/-- How many bytes the files hold. -/
def Project.byteCount (p : Project) : Nat :=
  (p.files.map (·.content.utf8ByteSize)).foldr (· + ·) 0

/-- The quotient rounded to the nearest number; halfway between two, to the even one. -/
def nearestEven (n d : Nat) : Nat :=
  let q := n / d
  let twice := 2 * (n % d)
  if twice < d then q
  else if d < twice then q + 1
  else if q % 2 = 0 then q else q + 1

/-- A number of bytes in words: in kilobytes with one decimal from a kilobyte on. -/
def sizeText (bytes : Nat) : String :=
  if bytes < 1024 then
    let whole := bytes.repr
    s!"{whole} B"
  else
    let tenths := nearestEven (10 * bytes) 1024
    let whole := (tenths / 10).repr
    let tenth := (tenths % 10).repr
    s!"{whole}.{tenth} KB"

/-- The summary of a project, a line for each figure. -/
def Project.summary (p : Project) : String :=
  let files := p.files.length.repr
  let sources := (p.ofKind .source).length.repr
  let scripts := (p.ofKind .script).length.repr
  let warnings := p.warnings.length.repr
  let size := sizeText p.byteCount
  s!"Files:     {files}\n  Rust:    {sources}\n  SQL:     {scripts}\n" ++
    s!"Warnings:  {warnings}\nSize:      {size}\n"

/-- A quotient without remainder is not rounded. -/
theorem nearestEven_exact {n d : Nat} (hd : 0 < d) : nearestEven (d * n) d = n := by
  have : d * n / d = n := Nat.mul_div_cancel_left n hd
  simp [nearestEven, this, hd]

/-- Less than a kilobyte is counted in bytes. -/
theorem sizeText_small {bytes : Nat} (h : bytes < 1024) : sizeText bytes = bytes.repr ++ " B" := by
  rw [sizeText, if_pos h]
  rfl

end Schemata.Generation
