import CrateSurface.Proofs.CleanPaths
import CrateSurface.Proofs.ExtractionResults
import CrateSurface.Proofs.WalkUnfolding

namespace CrateSurface

/-- What the refusals of a file system are called, with their numbers. -/
def OsFault.names : List (OsFault × String) :=
  [(.notFound, "[Errno 2] No such file or directory"),
    (.alreadyThere, "[Errno 17] File exists"),
    (.notDirectory, "[Errno 20] Not a directory"),
    (.isDirectory, "[Errno 21] Is a directory"),
    (.linkLoop, "[Errno 40] Too many levels of symbolic links"),
    (.permissionDenied, "[Errno 13] Permission denied"),
    (.nameTooLong, "[Errno 36] File name too long")]

/-- What is wrong with bytes that are no text. -/
def Utf8.Reason.names : List (Utf8.Reason × String) :=
  [(.startByte, "invalid start byte"),
    (.continuationByte, "invalid continuation byte"),
    (.endOfData, "unexpected end of data")]

/-- A path that a walk may ask about: something was found there. -/
def FileView.Known (view : FileView) (path : String) : Prop :=
  view.pathExists path = true ∨ view.isFile path = true

/-- A view in which what was found is never refused for a NUL. -/
structure FileView.IsClean (view : FileView) : Prop where
  canonical : ∀ path, view.Known path → view.canonical path ≠ .error .embeddedNul
  read : ∀ path file, view.Known path → view.canonical path = .ok file →
    view.read file ≠ .error (.path .embeddedNul)

/-- The view of a clean tree is clean. -/
theorem FileTree.IsClean.view {tree : FileTree} (clean : tree.IsClean) (parse : List Char → Node) :
    (tree.view parse).IsClean where
  canonical path known := (canonical_isClean clean (isClean_of_known known)).1
  read path file known canonical := by
    have own : Path.IsClean file := (canonical_isClean clean (isClean_of_known known)).2 file canonical
    change (if file ∈ tree.paths then tree.readSource parse file
      else .error (.path (.system .notFound file))) ≠ _
    split
    · intro refused
      unfold readSource readBytes at refused
      cases found : tree.stat .follow file with
      | error fault =>
        rw [found] at refused
        cases refused
        exact stat_ne_embeddedNul own _ found
      | ok inode =>
        rw [found] at refused
        cases inode with
        | directory => cases refused
        | link target => cases refused
        | locked isDirectory => cases refused
        | file bytes =>
          cases decoded : Utf8.decode bytes with
          | error fault => simp [bind, Except.bind, Except.mapError, decoded] at refused
          | ok text => simp [bind, Except.bind, Except.mapError, decoded, pure, Except.pure] at refused
    · intro refused
      cases refused

namespace Visit

/-- A visit that fails does so with an error that crates are expected to have. -/
def FailsExpectedly (visit : Visit) : Prop :=
  ∀ error, visit.failure = some error → (ExtractionError.walk error).isExpected = true

theorem FailsExpectedly.andThen {first : Visit} {next : List String → Visit}
    (start : first.FailsExpectedly) (rest : (next first.seen).FailsExpectedly) :
    (first.andThen next).FailsExpectedly := by
  cases failed : first.failure with
  | some error => rwa [andThen_of_failure failed]
  | none =>
    rw [andThen_of_success failed]
    exact rest

theorem FailsExpectedly.failing {error : WalkError} {notes : List Log.Note} {seen : List String}
    (expected : (ExtractionError.walk error).isExpected = true) :
    (Visit.failing error notes seen).FailsExpectedly := by
  intro other failed
  cases failed
  exact expected

end Visit

section Walks

variable {view : FileView} {f : String → List String → List String → Visit}

end Walks

end CrateSurface
