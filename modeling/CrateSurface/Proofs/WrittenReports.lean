import CrateSurface.CommandLine
import CrateSurface.Proofs.CleanPaths
import CrateSurface.Proofs.Statistics

namespace CrateSurface

/-- A path that the file system can be asked about: it holds no NUL, and its surrogates are among
those that stand for bytes. -/
structure RawPath.IsClean (path : RawPath) : Prop where
  noNul : CodePoint.char '\x00' ∉ path
  stray : ∀ point ∈ path, point.isSurrogate = true → 0xdc80 ≤ point.toNat ∧ point.toNat < 0xdd00

namespace RawPath.IsClean

variable {path base : RawPath}

theorem of_subset {other : RawPath} (clean : IsClean path) (among : other ⊆ path) : IsClean other where
  noNul member := clean.noNul (among member)
  stray point member := clean.stray point (among member)

theorem points {text : String} (clean : Path.IsClean text) : IsClean (Text.points text) where
  noNul member := by
    obtain ⟨c, inside, same⟩ := List.mem_map.mp member
    cases same
    exact clean inside
  stray point member surrogate := by
    obtain ⟨c, _, rfl⟩ := List.mem_map.mp member
    cases surrogate

theorem join (first : IsClean base) (second : IsClean path) : IsClean (base.join path) := by
  have parts : ∀ point ∈ base.join path, point ∈ base ∨ point = slash ∨ point ∈ path := by
    intro point member
    have found := List.mem_append.mp (Path.under_subset slash base path member)
    simpa only [List.mem_cons] using found
  constructor
  · intro member
    rcases parts _ member with early | same | late
    · exact first.noNul early
    · exact absurd same (by decide)
    · exact second.noNul late
  · intro point member surrogate
    rcases parts _ member with early | rfl | late
    · exact first.stray point early surrogate
    · cases surrogate
    · exact second.stray point late surrogate

theorem parent (clean : IsClean path) : IsClean path.parent :=
  clean.of_subset (Path.beforeLast_subset slash path)

end RawPath.IsClean

namespace FileTree

variable {tree : FileTree} {path : RawPath} {fault : WriteFault}

/-- What is put at a place is found there. -/
theorem inode?_put (tree : FileTree) {place : Location} (inside : place ≠ []) (inode : Inode) :
    (tree.put place inode).inode? place = some inode := by
  obtain ⟨first, rest, rfl⟩ := List.exists_cons_of_ne_nil inside
  have gone : (tree.entries.filter fun entry => entry.1 != first :: rest).find?
      (fun entry => entry.1 == first :: rest) = none := by
    rw [List.find?_eq_none]
    intro entry member
    simpa using (List.mem_filter.mp member).2
  rw [put, inode?, List.find?_append, gone]
  · simp
  · exact inside

/-- A file that was written is where its path leads. -/
theorem putFile_eq_ok {after : FileTree} {bytes : List UInt8}
    (written : tree.putFile path bytes = .ok after) :
    ∃ place, tree.resolveRaw .mayBeNew path = .ok place ∧
      after.inode? place = some (.file bytes) := by
  obtain ⟨place, resolved, put⟩ := bind_eq_ok.mp written
  refine ⟨place, resolved, ?_⟩
  split at put
  · cases put
  · cases put
  · cases put
  · rename_i occupied _ _
    cases put
    -- The root is a directory, which no file replaces.
    refine tree.inode?_put ?_ _
    rintro rfl
    exact occupied rfl

end FileTree

namespace Report

section Written

variable {tree : FileTree} {members : List (String × Json)} {runId time : String}
  {directory path : RawPath}

/-- A report that was written is in the file at its path. -/
theorem write_eq_ok (done : (write tree members runId time directory).2 = .ok path) :
    path = Report.path directory runId ∧ ∃ place,
      (tree.makeDirectories directory (directory.length + 1)).1.resolveRaw .mayBeNew path =
        .ok place ∧
      (write tree members runId time directory).1.inode? place =
        some (.file (Utf8.encode (text members runId time))) := by
  unfold write at done ⊢
  generalize tree.makeDirectories directory (directory.length + 1) = begun at done ⊢
  obtain ⟨made, fault⟩ := begun
  cases fault with
  | some fault => cases done
  | none =>
    dsimp only at done ⊢
    cases put : made.putFile (Report.path directory runId) (Utf8.encode (text members runId time)) with
    | error fault =>
      rw [put] at done
      cases done
    | ok after =>
      rw [put] at done
      cases done
      exact ⟨rfl, FileTree.putFile_eq_ok put⟩

end Written

end Report

end CrateSurface
