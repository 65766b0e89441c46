import Migrid.Python.Text

namespace Migrid

/-! ### tail: the last lines of a file by exponential backtracking -/

/-- file.readlines() of the bytes from the current position: each line up to and including
its newline, the last one possibly without. -/
def splitLines (s : Bytes) : List Bytes :=
  s.foldr (fun c acc => if c = 10 then [c] :: acc else
    match acc with
    | [] => [[c]]
    | line :: rest => (c :: line) :: rest) []

/-- file.readline() at a position: the line that starts there, empty at the end of the file,
and the position after it. -/
def readline (content : Bytes) (pos : Nat) : Bytes × Nat :=
  let line := (splitLines (content.drop pos)).headD []
  (line, pos + line.length)

/-- k calls of readline from a position: the lines read and the position after them. -/
def readlines (content : Bytes) : Nat → Nat → List Bytes × Nat
  | 0, pos => ([], pos)
  | k + 1, pos =>
    let (line, pos) := readline content pos
    let (rest, pos) := readlines content k pos
    (line :: rest, pos)

/-- The backtracking loop: double backstep, capped at the length, and count the lines of the
last backstep bytes, while backstep is below the length and at most lines lines were seen.
The fuel bounds the iterations; the length is enough, since backstep grows each time. -/
def backtrack (content : Bytes) (lines : Int) : Nat → Nat → Int → Nat × Int
  | 0, backstep, newlines => (backstep, newlines)
  | fuel + 1, backstep, newlines =>
    if backstep < content.length ∧ newlines ≤ lines then
      let backstep := if backstep * 2 > content.length then content.length else backstep * 2
      backtrack content lines fuel backstep
        (splitLines (content.drop (content.length - backstep))).length
    else (backstep, newlines)

/-- The output_lines main collects for one file of the given content: the backtracking, the
seek back, the skipped extra lines, then newlines lines read and stripped. -/
def tailLines (content : Bytes) (lines : Int) : List Bytes :=
  let length := content.length
  let (backstep, newlines) := backtrack content lines length 1 0
  let pos := if length ≠ 0 then length - backstep else length
  let skipped := (newlines - lines).toNat
  let pos := (readlines content skipped pos).2
  let newlines := newlines - skipped
  ((readlines content newlines.toNat pos).1.map fun line => pyStrip (pyStrip line))

/-! ### tail.main over the path patterns -/

/-- The return values of mig.shared.returnvalues that main gives. -/
inductive ReturnValue where
  | ok
  | clientError
  | fileNotFound
  | systemError
  deriving DecidableEq, Repr

/-- The output objects main appends: a flag note, a pattern without an allowed match, the
error of a file that could not be read, and the lines of a file (with its path when
verbose). -/
inductive OutputObject where
  | text (text : Bytes)
  | fileNotFound (name : Bytes)
  | errorText (text : Bytes)
  | fileOutput (path : Option Bytes) (lines : List Bytes)
  deriving DecidableEq, Repr

/-- What main reads of the system: glob.glob, os.path.abspath, valid_user_path with
allow_equal set, and open(path).read(): the content, or the text of the exception raised. -/
structure TailFs where
  glob : Bytes → List Bytes
  abspath : Bytes → Bytes
  validUserPath : Bytes → Bytes → Bool
  readFile : Bytes → Except Bytes Bytes

/-- The first loop over a pattern: the absolute paths of its glob matches that stay inside
base_dir; the others are only logged. -/
def allowedMatches (fs : TailFs) (baseDir pattern : Bytes) : List Bytes :=
  ((fs.glob (baseDir ++ pattern)).map fs.abspath).filter fun realPath => fs.validUserPath realPath baseDir

/-- One matched file: its last lines as a file_output, or an error_text and SYSTEM_ERROR
when it cannot be read. -/
def tailFile (fs : TailFs) (opName baseDir : Bytes) (verbose : Bool) (lines : Int)
    (state : List OutputObject × ReturnValue) (realPath : Bytes) : List OutputObject × ReturnValue :=
  let relativePath := pyReplace baseDir [] realPath
  match fs.readFile realPath with
  | .error exc =>
    (state.1 ++ [.errorText (opName ++ str ": '" ++ relativePath ++ str "': " ++ exc)], .systemError)
  | .ok content =>
    let outputLines := tailLines content lines
    (state.1 ++ [if verbose then .fileOutput (some relativePath) outputLines
      else .fileOutput none outputLines], state.2)

/-- One pattern: file_not_found and FILE_NOT_FOUND without an allowed match, then each
allowed match in turn. -/
def tailPattern (fs : TailFs) (opName baseDir : Bytes) (verbose : Bool) (lines : Int)
    (state : List OutputObject × ReturnValue) (pattern : Bytes) : List OutputObject × ReturnValue :=
  let matched := allowedMatches fs baseDir pattern
  let state := if matched.isEmpty then (state.1 ++ [.fileNotFound pattern], .fileNotFound) else state
  matched.foldl (tailFile fs opName baseDir verbose lines) state

/-- main after the input is validated, from the output objects initialize_main_variables
gives: a note per flag character when verbose, then every pattern in turn, from status OK.
base_dir is the absolute home of the user ending in a separator, lines the int of the last
lines argument. -/
def tailMain (fs : TailFs) (opName baseDir : Bytes) (verbose : Bytes → Bool)
    (outputObjects : List OutputObject) (flags : List Bytes) (lines : Int) (patternList : List Bytes) :
    List OutputObject × ReturnValue :=
  let flags := pyJoin [] flags
  let outputObjects := if verbose flags then
      outputObjects ++ flags.map fun flag => .text (opName ++ str " using flag: " ++ [flag])
    else outputObjects
  patternList.foldl (tailPattern fs opName baseDir (verbose flags) lines) (outputObjects, .ok)

end Migrid
