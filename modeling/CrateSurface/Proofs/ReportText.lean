import CrateSurface.Proofs.AsciiText
import CrateSurface.Proofs.JsonLayouts
import CrateSurface.Proofs.JsonLegible
import CrateSurface.Proofs.ReorderedJson
import CrateSurface.Proofs.WrittenReports

namespace CrateSurface

namespace Json

/-- The layout of reports writes ASCII where the values do. -/
theorem indented_keeps : Layout.indented.Keeps Utf8.IsAscii where
  char c d member := (Layout.printable_asciiChar c d member).2.trans (by decide)
  gap depth c member := by
    rcases List.mem_cons.mp member with rfl | later
    · decide
    · rw [List.eq_of_mem_replicate later]
      decide
  colon c member := by
    rw [List.mem_singleton.mp member]
    decide
  printable _ shown := shown.2.trans (by decide)

section Indented

variable {value : Json}

theorem indented_ascii (legible : value.Legible) (plain : value.FloatFree) :
    ∀ c ∈ value.indented.toList, Utf8.IsAscii c := by
  rw [indented, String.toList_ofList]
  exact indented_keeps.text (legible.reordered_sorted.preserves ofParts_floatFree plain) 0

/-- The text that is spread over lines reads as the sorted value. -/
theorem read_indented (legible : value.Legible) (plain : value.FloatFree) :
    read value.indented = .ok value.sorted := by
  have sorted := legible.reordered_sorted
  have back := Layout.indented.read_text (sorted.preserves ofParts_legible legible)
    (sorted.preserves ofParts_floatFree plain) [] (by simp)
  rwa [List.append_nil] at back

/-- The legible values without floats are those that texts denote. -/
theorem FloatFree.legible_iff_read (plain : value.FloatFree) :
    value.Legible ↔ ∃ text, read text = .ok value := by
  constructor
  · exact fun legible => ⟨_, legible.read_writeCompact plain⟩
  · rintro ⟨text, denoted⟩
    exact read_legible denoted

end Indented

/-- Objects that are reordered have the same keys, and stay so with more members behind. -/
theorem Reordered.append {value other : Json} (reordered : Reordered value other) :
    ∀ members, value = .obj members → ∃ others, other = .obj others ∧
      (members.map Prod.fst).Perm (others.map Prod.fst) ∧
      ∀ more, Reordered (.obj (members ++ more)) (.obj (others ++ more)) := by
  -- A chain of steps goes on only from an object: that each step ends in one is shown along the way.
  induction reordered with
  | refl value =>
    rintro members rfl
    exact ⟨members, rfl, .refl _, fun more => .refl _⟩
  | trans _ _ first second =>
    intro members same
    obtain ⟨middle, here, keys, begun⟩ := first members same
    obtain ⟨others, there, keysToo, ended⟩ := second middle here
    exact ⟨others, there, keys.trans keysToo, fun more => (begun more).trans (ended more)⟩
  | @members members others perm =>
    rintro _ ⟨⟩
    exact ⟨others, rfl, perm.map Prod.fst, fun more => .members (perm.append_right more)⟩
  | item _ => rintro members ⟨⟩
  | @member before after key value other inner =>
    rintro _ ⟨⟩
    refine ⟨before ++ (key, other) :: after, rfl, by simp, fun more => ?_⟩
    rw [List.append_assoc, List.append_assoc]
    exact .member inner

end Json

namespace Report

open Json (Reordered)

section Texts

variable {members others : List (String × Json)}

/-- What a report lacks of the id and the time of its run. -/
def added (members : List (String × Json)) (runId time : String) : List (String × Json) :=
  [("run_id", .str runId), ("timestamp_utc", .str time)].filter fun m =>
    m.1 ∉ members.map Prod.fst

/-- A default is added only where its key is missing. -/
theorem withDefault_eq (members : List (String × Json)) (key : String) (value : Json) :
    withDefault members key value =
      if key ∈ members.map Prod.fst then members else members ++ [(key, value)] := by
  have known : (members.lookup key).isSome = true ↔ key ∈ members.map Prod.fst := by
    simp [List.lookup_isSome_iff]
  unfold withDefault
  simp only [known]

/-- The text of a report is that of its members with those that are added. -/
theorem text_eq (members : List (String × Json)) (runId time : String) :
    text members runId time = (Json.obj (members ++ added members runId time)).indented := by
  have other : "timestamp_utc" ≠ "run_id" := by decide
  rw [text, withDefault_eq members, withDefault_eq]
  unfold added
  by_cases hasId : "run_id" ∈ members.map Prod.fst <;>
    by_cases hasTime : "timestamp_utc" ∈ members.map Prod.fst <;>
      simp [hasId, hasTime, other]

theorem added_eq_of_perm (keys : (members.map Prod.fst).Perm (others.map Prod.fst))
    (runId time : String) : added others runId time = added members runId time := by
  unfold added
  simp only [keys.mem_iff]

theorem keys_nodup_append_added (distinct : (members.map Prod.fst).Nodup) (runId time : String) :
    ((members ++ added members runId time).map Prod.fst).Nodup := by
  rw [List.map_append, List.nodup_append]
  refine ⟨distinct, ?_, ?_⟩
  · have apart : ["run_id", "timestamp_utc"].Nodup := by decide
    exact apart.sublist (List.filter_sublist.map Prod.fst)
  · rintro key known _ member rfl
    obtain ⟨m, among, rfl⟩ := List.mem_map.mp member
    exact absurd known (of_decide_eq_true (List.mem_filter.mp among).2)

theorem forall_mem_added {P : Json → Prop} (texts : ∀ s, P (.str s)) (runId time : String) :
    ∀ m ∈ added members runId time, P m.2 := by
  intro m member
  have among := (List.mem_filter.mp member).1
  simp only [List.mem_cons, List.not_mem_nil, or_false] at among
  rcases among with rfl | rfl
  · exact texts runId
  · exact texts time

theorem legible_append_added (legible : (Json.obj members).Legible) (runId time : String) :
    (Json.obj (members ++ added members runId time)).Legible := by
  cases legible with
  | obj distinct all =>
    exact .obj (keys_nodup_append_added distinct runId time)
      (List.forall_mem_append.mpr ⟨all, forall_mem_added .str runId time⟩)

theorem floatFree_append_added (plain : (Json.obj members).FloatFree) (runId time : String) :
    (Json.obj (members ++ added members runId time)).FloatFree := by
  cases plain with
  | obj all => exact .obj (List.forall_mem_append.mpr ⟨all, forall_mem_added .str runId time⟩)

/-- The text of a report without floats is ASCII and reads as the report, with the id and the time of
the run where the report had none, but for the order of members; reports that differ in that order at
any depth have one text. A report that was written is in the file at its path, as this text, which
takes one byte a character. The reports are all those that some text denotes, so that their integers
are within the limit of digits, beyond which none can be written or read. -/
theorem text_restores (legible : (Json.obj members).Legible) (plain : (Json.obj members).FloatFree)
    (runId time : String) :
    (∀ c ∈ (text members runId time).toList, Utf8.IsAscii c) ∧
    (∃ back, Json.read (text members runId time) = .ok (.obj back) ∧
      Reordered (.obj (members ++ added members runId time)) (.obj back)) ∧
    (∀ others, Reordered (.obj members) (.obj others) →
      text others runId time = text members runId time) ∧
    ∀ tree directory path, (write tree members runId time directory).2 = .ok path →
      ∃ place bytes, path = Report.path directory runId ∧
        (tree.makeDirectories directory (directory.length + 1)).1.resolveRaw .mayBeNew path = .ok place ∧
        (write tree members runId time directory).1.inode? place = some (.file bytes) ∧
        (∀ b ∈ bytes, b < 0x80) ∧ Utf8.decode bytes = .ok (text members runId time).toList := by
  have whole := legible_append_added legible runId time
  have free := floatFree_append_added plain runId time
  have ascii : ∀ c ∈ (text members runId time).toList, Utf8.IsAscii c := by
    rw [text_eq]
    exact Json.indented_ascii whole free
  refine ⟨ascii, ?_, ?_, ?_⟩
  · rw [text_eq]
    exact ⟨_, Json.read_indented whole free, whole.reordered_sorted⟩
  · intro others reordered
    obtain ⟨_, same, keys, more⟩ := reordered.append members rfl
    cases same
    rw [text_eq, text_eq, added_eq_of_perm keys, Json.indented, Json.indented,
      (more _).sorted_eq whole]
  · intro tree directory path done
    obtain ⟨same, place, resolved, present⟩ := write_eq_ok done
    obtain ⟨bytes, decoded⟩ := Utf8.decode_encode_of_ascii ascii
    exact ⟨place, _, same, resolved, present, bytes, decoded⟩

end Texts

namespace NestedReport

/-- A report with its own id, an object in an array and a character beyond the first plane. -/
def members : List (String × Json) :=
  [("log", .arr [.obj [("note", .str "𝄞"), ("code", .int (-7))], .arr []]),
    ("run_id", .str "own")]

/-- The same report in another order. -/
def others : List (String × Json) :=
  [("run_id", .str "own"),
    ("log", .arr [.obj [("code", .int (-7)), ("note", .str "𝄞")], .arr []])]

theorem legible : (Json.obj members).Legible := by
  refine .obj (by decide) ?_
  simp only [members, List.forall_mem_cons]
  refine ⟨.arr ?_, .str _, by simp⟩
  simp only [List.forall_mem_cons]
  refine ⟨.obj (by decide) ?_, .arr (by simp), by simp⟩
  simp only [List.forall_mem_cons]
  exact ⟨.str _, .int (by decide), by simp⟩

theorem floatFree : (Json.obj members).FloatFree := by
  refine .obj ?_
  simp only [members, List.forall_mem_cons]
  refine ⟨.arr ?_, .str _, by simp⟩
  simp only [List.forall_mem_cons]
  refine ⟨.obj ?_, .arr (by simp), by simp⟩
  simp only [List.forall_mem_cons]
  exact ⟨.str _, .int _, by simp⟩

theorem reordered : Json.Reordered (.obj members) (.obj others) := by
  refine .trans (.members (.swap ..)) (@Reordered.member [("run_id", .str "own")] [] _ _ _ ?_)
  exact @Reordered.item [] [.arr []] _ _ (.members (.swap ..))

end NestedReport

section

open NestedReport

/-- A report with a nested log and an own id is written, whatever the order of its members, and read
back. -/
theorem nested_report_restored :
    (text members "r" "now" = "\x7b\n  \"log\": [\n    \x7b\n      \"code\": -7,\n" ++
      "      \"note\": \"\\ud834\\udd1e\"\n    \x7d,\n    []\n  ],\n" ++
      "  \"run_id\": \"own\",\n  \"timestamp_utc\": \"now\"\n\x7d" ∧
      text others "r" "now" = text members "r" "now") ∧
    (∀ c ∈ (text members "r" "now").toList, Utf8.IsAscii c) ∧
    (∃ back, Json.read (text members "r" "now") = .ok (.obj back) ∧
      Reordered (.obj (members ++ [("timestamp_utc", .str "now")])) (.obj back)) ∧
    ∃ place bytes,
      (write ⟨[], []⟩ members "r" "now" (Text.points "out")).1.inode? place = some (.file bytes) ∧
      Utf8.decode bytes = .ok (text members "r" "now").toList := by
  obtain ⟨ascii, back, same, written⟩ := text_restores legible floatFree "r" "now"
  have lacking : added members "r" "now" = [("timestamp_utc", .str "now")] := by
    simp [added, members]
  have stored : (write ⟨[], []⟩ members "r" "now" (Text.points "out")).2.toOption =
      some (Text.points "out/r.json") := by
    decide +kernel
  rw [lacking] at back
  refine ⟨⟨by decide +kernel, same others reordered⟩, ascii, back, ?_⟩
  cases done : (write ⟨[], []⟩ members "r" "now" (Text.points "out")).2 with
  | error fault =>
    rw [done] at stored
    cases stored
  | ok path =>
    obtain ⟨place, bytes, _, _, present, _, decoded⟩ := written ⟨[], []⟩ (Text.points "out") path done
    exact ⟨place, bytes, present, decoded⟩

end

end Report

end CrateSurface
