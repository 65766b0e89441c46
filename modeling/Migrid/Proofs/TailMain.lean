import Migrid.Tail.Main
import Migrid.Proofs.Split
import Mathlib.Data.List.Basic

namespace Migrid.Proofs.TailMain
open Migrid Migrid.Proofs.Split

/-! ### The status main returns -/

/-- The status an output object reports: FILE_NOT_FOUND for a pattern without an allowed
match, SYSTEM_ERROR for a file that could not be read, none for the others. -/
def failureStatus : OutputObject → Option ReturnValue
  | .fileNotFound _ => some .fileNotFound
  | .errorText _ => some .systemError
  | _ => none

/-- The status agrees with the output: it is the one of the last failure reported, OK when
there is none. -/
def StatusAgrees (state : List OutputObject × ReturnValue) : Prop :=
  state.2 = (state.1.reverse.findSome? failureStatus).getD .ok

theorem findSome?_append_singleton (objects : List OutputObject) (o : OutputObject) :
    (objects ++ [o]).reverse.findSome? failureStatus =
      (failureStatus o).or (objects.reverse.findSome? failureStatus) := by
  rw [List.reverse_append, List.reverse_singleton, List.singleton_append, List.findSome?_cons]
  cases failureStatus o <;> rfl

theorem StatusAgrees.append {state : List OutputObject × ReturnValue} (h : StatusAgrees state)
    {o : OutputObject} (ho : failureStatus o = none) : StatusAgrees (state.1 ++ [o], state.2) := by
  rw [StatusAgrees, findSome?_append_singleton, ho, Option.none_or]
  exact h

theorem StatusAgrees.fail (objects : List OutputObject) {o : OutputObject} {status : ReturnValue}
    (ho : failureStatus o = some status) : StatusAgrees (objects ++ [o], status) := by
  rw [StatusAgrees, findSome?_append_singleton, ho]
  rfl

section
variable (fs : TailFs) (opName baseDir : Bytes) (verbose : Bool) (lines : Int)

theorem StatusAgrees.file {state : List OutputObject × ReturnValue} (h : StatusAgrees state)
    (realPath : Bytes) : StatusAgrees (tailFile fs opName baseDir verbose lines state realPath) := by
  unfold tailFile
  split
  · exact StatusAgrees.fail _ rfl
  · exact h.append (by split <;> rfl)

theorem StatusAgrees.pattern {state : List OutputObject × ReturnValue} (h : StatusAgrees state)
    (pattern : Bytes) : StatusAgrees (tailPattern fs opName baseDir verbose lines state pattern) := by
  unfold tailPattern
  dsimp only
  generalize allowedMatches fs baseDir pattern = matched
  have hstart : StatusAgrees
      (if matched.isEmpty then (state.1 ++ [.fileNotFound pattern], .fileNotFound) else state) := by
    split
    · exact StatusAgrees.fail _ rfl
    · exact h
  generalize (if matched.isEmpty then (state.1 ++ [.fileNotFound pattern], .fileNotFound)
    else state) = start at hstart
  induction matched generalizing start with
  | nil => exact hstart
  | cons realPath matched ih => exact ih _ (hstart.file fs opName baseDir verbose lines realPath)

end

/-- Whatever the system, flags, line count and patterns, main returns the status of the last
failure in its output, FILE_NOT_FOUND for a pattern without an allowed match and
SYSTEM_ERROR for a file it could not read, and OK when there is none; the output objects
initialize_main_variables gave must report no failure. -/
theorem tailMain_status (fs : TailFs) (opName baseDir : Bytes) (verbose : Bytes → Bool)
    (outputObjects : List OutputObject) (flags : List Bytes) (lines : Int) (patternList : List Bytes)
    (hinit : ∀ o ∈ outputObjects, failureStatus o = none) :
    (tailMain fs opName baseDir verbose outputObjects flags lines patternList).2 =
      ((tailMain fs opName baseDir verbose outputObjects flags lines patternList).1.reverse.findSome?
        failureStatus).getD .ok := by
  have hnone : ∀ objects : List OutputObject, (∀ o ∈ objects, failureStatus o = none) →
      objects.reverse.findSome? failureStatus = none := fun objects h =>
    List.findSome?_eq_none_iff.mpr fun o ho => h o (List.mem_reverse.mp ho)
  unfold tailMain
  dsimp only
  generalize hstart : (if verbose (pyJoin [] flags) then _ else outputObjects) = start
  have hagree : StatusAgrees (start, .ok) := by
    rw [StatusAgrees, hnone start ?_]
    · rfl
    · subst hstart
      split
      · intro o ho
        rcases List.mem_append.mp ho with ho | ho
        · exact hinit o ho
        · obtain ⟨flag, -, rfl⟩ := List.mem_map.mp ho
          rfl
      · exact hinit
  generalize (start, ReturnValue.ok) = state at hagree
  induction patternList generalizing state with
  | nil => exact hagree
  | cons pattern patternList ih =>
    exact ih _ (hagree.pattern fs opName baseDir (verbose (pyJoin [] flags)) lines pattern)

theorem tailMain_status_unreadable :
    (tailMain ⟨fun _ => [str "/h/u/a"], id, fun realPath base => base.isPrefixOf realPath,
        fun _ => .error (str "Permission denied")⟩ (str "tail") (str "/h/u/") (fun _ => false)
        [.text (str "tail")] [] 20 [str "*"]).2 =
      ((tailMain ⟨fun _ => [str "/h/u/a"], id, fun realPath base => base.isPrefixOf realPath,
        fun _ => .error (str "Permission denied")⟩ (str "tail") (str "/h/u/") (fun _ => false)
        [.text (str "tail")] [] 20 [str "*"]).1.reverse.findSome? failureStatus).getD .ok :=
  tailMain_status _ _ _ _ _ _ _ _ (by decide)

/-! ### Nothing outside the home reaches the output -/

section
variable {fs fs' : TailFs} (opName baseDir : Bytes) (verbose : Bool) (lines : Int)

theorem tailFile_congr {realPath : Bytes} (h : fs.readFile realPath = fs'.readFile realPath)
    (state : List OutputObject × ReturnValue) :
    tailFile fs opName baseDir verbose lines state realPath =
      tailFile fs' opName baseDir verbose lines state realPath := by
  simp only [tailFile, h]

theorem tailPattern_congr {pattern : Bytes}
    (hmatch : allowedMatches fs baseDir pattern = allowedMatches fs' baseDir pattern)
    (hread : ∀ realPath ∈ allowedMatches fs baseDir pattern, fs.readFile realPath = fs'.readFile realPath)
    (state : List OutputObject × ReturnValue) :
    tailPattern fs opName baseDir verbose lines state pattern =
      tailPattern fs' opName baseDir verbose lines state pattern := by
  simp only [tailPattern, ← hmatch]
  exact List.foldl_ext _ _ _ fun state realPath h =>
    tailFile_congr opName baseDir verbose lines (hread realPath h) state

end

/-- main reads nothing outside the user's home: two systems with, for every pattern, the same
allowed matches (the glob matches inside base_dir) and the same result of reading each of
them give the same output objects and status, whatever glob, abspath and reading give
elsewhere, so neither the existence, the content nor the read errors of a path outside base_dir
can show in the output. -/
theorem tailMain_confined (fs fs' : TailFs) (opName baseDir : Bytes) (verbose : Bytes → Bool)
    (outputObjects : List OutputObject) (flags : List Bytes) (lines : Int) (patternList : List Bytes)
    (hmatch : ∀ pattern ∈ patternList,
      allowedMatches fs baseDir pattern = allowedMatches fs' baseDir pattern)
    (hread : ∀ pattern ∈ patternList, ∀ realPath ∈ allowedMatches fs baseDir pattern,
      fs.readFile realPath = fs'.readFile realPath) :
    tailMain fs opName baseDir verbose outputObjects flags lines patternList =
      tailMain fs' opName baseDir verbose outputObjects flags lines patternList :=
  List.foldl_ext _ _ _ fun state pattern h =>
    tailPattern_congr opName baseDir _ lines (hmatch pattern h) (hread pattern h) state

theorem tailMain_confined_outside :
    tailMain ⟨fun _ => [str "/h/u/a", str "/h/v/b"], id, fun realPath base => base.isPrefixOf realPath,
        fun realPath => if realPath = str "/h/u/a" then .ok (str "x\n") else .error (str "denied")⟩
        (str "tail") (str "/h/u/") (fun _ => false) [] [] 20 [str "*"] =
      tailMain ⟨fun _ => [str "/h/u/a"], id, fun realPath base => base.isPrefixOf realPath,
        fun realPath => if realPath = str "/h/u/a" then .ok (str "x\n") else .ok (str "secret")⟩
        (str "tail") (str "/h/u/") (fun _ => false) [] [] 20 [str "*"] :=
  tailMain_confined _ _ _ _ _ _ _ _ _ (by decide) (by decide)

/-! ### The path a file is reported under -/

/-- tail reports each file under its path with every occurrence of base_dir cut out, in its
output and in its error text alike: a file base_dir + rel is named rel exactly when base_dir
does not occur again inside rel, and under a shorter path when it does. -/
theorem tailFile_relativePath (fs : TailFs) (opName baseDir : Bytes) (verbose : Bool) (lines : Int)
    (state : List OutputObject × ReturnValue) (hbase : baseDir ≠ []) (rel : Bytes) :
    (∀ content, fs.readFile (baseDir ++ rel) = .ok content →
      (tailFile fs opName baseDir true lines state (baseDir ++ rel) =
          (state.1 ++ [.fileOutput (some rel) (tailLines content lines)], state.2) ↔
        ¬ baseDir <:+: rel)) ∧
    ∀ exc, fs.readFile (baseDir ++ rel) = .error exc →
      (tailFile fs opName baseDir verbose lines state (baseDir ++ rel) =
          (state.1 ++ [.errorText (opName ++ str ": '" ++ rel ++ str "': " ++ exc)], .systemError) ↔
        ¬ baseDir <:+: rel) := by
  constructor
  · intro content hread
    simp only [tailFile, hread, if_true, Prod.mk.injEq, List.append_cancel_left_eq, List.cons.injEq,
      OutputObject.fileOutput.injEq, Option.some.injEq, and_true]
    exact pyReplace_prefix_iff hbase rel
  · intro exc hread
    simp only [tailFile, hread, Prod.mk.injEq, List.append_cancel_left_eq, List.cons.injEq,
      OutputObject.errorText.injEq, List.append_cancel_right_eq, and_true]
    exact pyReplace_prefix_iff hbase rel

theorem tailFile_relativePath_nested :
    tailFile ⟨fun _ => [], id, fun _ _ => true, fun _ => .ok (str "x\n")⟩ (str "tail") (str "/h/u/") true 20
        ([], .ok) (str "/h/u/" ++ str "a/h/u/b") ≠
      ([] ++ [.fileOutput (some (str "a/h/u/b")) (tailLines (str "x\n") 20)], .ok) := fun h =>
  ((tailFile_relativePath _ _ _ false 20 ([], .ok) (by decide) (str "a/h/u/b")).1 _ rfl).mp h
    (by decide)

end Migrid.Proofs.TailMain
