import CrateSurface.Proofs.ChosenLevels
import CrateSurface.Proofs.SettingsFiles

namespace CrateSurface.Settings

open Log (LevelChoice Denotes IsRefused)

section Verdicts

variable {value : Value} {level : LevelChoice}

/-- Only the number itself denotes minus one, the level that stands for none. -/
theorem eq_of_denotes_minusOne (denotes : Denotes value (.number (-1))) : value = .int (-1) := by
  have positive : ∀ entry ∈ Log.levelNames, entry.2 ≠ -1 := by decide
  generalize same : LevelChoice.number (-1) = level at denotes
  cases denotes with
  | truth b => cases same
  | number n =>
    cases same
    rfl
  | numeral _ numeral =>
    have := LevelChoice.number.inj same
    omega
  | name named => exact absurd (LevelChoice.number.inj same).symm (positive _ named)

/-- The problem that a value is as a level, if it is one, and the level that it chooses. -/
inductive Judges (value : Value) : List Problem → Except Failure LevelChoice → Prop
  | absent : isGiven value = false → Judges value [] (.ok Log.defaultLevel)
  | refused {fault : IntegerFault} : IsRefused value → Judges value [] (.error (.number fault))
  | known {level : LevelChoice} : isGiven value = true → Denotes value level →
      level ≠ .number (-1) → Judges value [] (.ok level)
  | unknown : isGiven value = true → (∀ level, ¬ Denotes value level) →
      Judges value [.unknownLevel value.repr] (.ok Log.defaultLevel)
  | minusOne : value = .int (-1) → Judges value [.unknownLevel value.repr] (.ok (.number (-1)))

theorem chooseLevel_of_absent {fallback : LevelChoice} (absent : isGiven value = false) :
    Log.chooseLevel value fallback = .ok fallback := by
  unfold isGiven at absent
  split at absent
  · rfl
  · rfl
  · cases absent

theorem attempt_meets_of_ok {α : Type} {x : Except IntegerFault α} {a : α} (same : x = .ok a) :
    Meets (fun _ => attempt x) [] (.ok a) := by
  rw [same]
  exact meets_pure a

theorem attempt_meets_of_error {α : Type} {x : Except IntegerFault α} {fault : IntegerFault}
    (same : x = .error fault) : Meets (fun _ => attempt x) [] (.error (.number fault)) := by
  rw [same]
  exact meets_throw (.number fault)

/-- The check complains about a value for which minus one, its fallback, is chosen. -/
theorem checkLevel_meets_problem (chosen : Log.chooseLevel value (.number (-1)) = .ok (.number (-1))) :
    Meets (fun strict => checkLevel strict value) [.unknownLevel value.repr] (.ok ()) :=
  (attempt_meets_of_ok chosen).andThen (meets_settle _)

theorem checkLevel_meets_nothing (chosen : Log.chooseLevel value (.number (-1)) = .ok level)
    (other : level ≠ .number (-1)) :
    Meets (fun strict => checkLevel strict value) [] (.ok ()) := by
  have rest : Meets (fun strict => if level = .number (-1) then settle strict (.unknownLevel value.repr)
      else pure ()) [] (.ok ()) := by
    simp only [if_neg other]
    exact meets_pure ()
  exact (attempt_meets_of_ok chosen).andThen rest

/-- The level is resolved as its value is judged, strict or not. -/
theorem resolveLevel_judges (value : Value) :
    ∃ problems result, Judges value problems result ∧
      Meets (fun strict => resolveLevel strict value) problems result := by
  unfold resolveLevel
  cases given : isGiven value with
  | false =>
    exact ⟨_, _, .absent given, attempt_meets_of_ok (chooseLevel_of_absent given)⟩
  | true =>
    by_cases refused : IsRefused value
    · obtain ⟨fault, failed⟩ : ∃ fault, Log.chooseLevel value (.number (-1)) = .error fault :=
        Log.chooseLevel_of_refused refused
      have stopped : Meets (fun strict => checkLevel strict value) [] (.error (.number fault)) :=
        (attempt_meets_of_error failed).stops _
      exact ⟨_, _, .refused refused, stopped.stops _⟩
    by_cases denoted : ∃ level, Denotes value level
    · obtain ⟨level, denotes⟩ := denoted
      have checked : Log.chooseLevel value (.number (-1)) = .ok level :=
        Log.chooseLevel_of_denotes refused denotes
      have used : Meets (fun _ => attempt (Log.chooseLevel value Log.defaultLevel)) [] (.ok level) :=
        attempt_meets_of_ok (Log.chooseLevel_of_denotes refused denotes)
      by_cases minusOne : level = .number (-1)
      · rw [minusOne] at denotes checked used
        exact ⟨_, _, .minusOne (eq_of_denotes_minusOne denotes),
          (checkLevel_meets_problem checked).andThen used⟩
      · exact ⟨_, _, .known given denotes minusOne,
          (checkLevel_meets_nothing checked minusOne).andThen used⟩
    · have nothing : ∀ level, ¬ Denotes value level := fun level denotes => denoted ⟨level, denotes⟩
      exact ⟨_, _, .unknown given nothing,
        (checkLevel_meets_problem (Log.chooseLevel_of_not_denotes refused nothing)).andThen
          (attempt_meets_of_ok (Log.chooseLevel_of_not_denotes refused nothing))⟩

end Verdicts

section Resolved

/-- The entries of the settings file that the environment names; none if it names no file. -/
inductive FileReads (tree : FileTree) (env : Environment) :
    List Problem → Except Failure Entries → Prop
  | unnamed : env.nonempty? Environment.configPath = none → FileReads tree env [] (.ok [])
  | named {path : String} {problems : List Problem} {result : Except Failure Entries} :
      env.nonempty? Environment.configPath = some path → Reads tree path problems result →
      FileReads tree env problems result

/-- The problems with the settings of a run, and the settings if there are some: those of the file
come before that of the level. -/
inductive Resolves (tree : FileTree) (env : Environment) :
    List Problem → Except Failure Settings → Prop
  | noEntries {problems : List Problem} {failure : Failure} :
      FileReads tree env problems (.error failure) → Resolves tree env problems (.error failure)
  | noLevel {problems others : List Problem} {entries : Entries} {failure : Failure} :
      FileReads tree env problems (.ok entries) →
      Judges (levelValue env entries) others (.error failure) →
      Resolves tree env (problems ++ others) (.error failure)
  | notWritten {problems others : List Problem} {entries : Entries} {level : LevelChoice}
      {fault : IntegerFault} :
      FileReads tree env problems (.ok entries) →
      Judges (levelValue env entries) others (.ok level) →
      allowsFaults env entries = .error fault ∨ reportPath? env entries = .error fault →
      Resolves tree env (problems ++ others) (.error (.number fault))
  | resolved {problems others : List Problem} {entries : Entries} {level : LevelChoice}
      {allowFaults : Bool} {reportDir : Option RawPath} :
      FileReads tree env problems (.ok entries) →
      Judges (levelValue env entries) others (.ok level) →
      allowsFaults env entries = .ok allowFaults → reportPath? env entries = .ok reportDir →
      Resolves tree env (problems ++ others) (.ok { level, allowFaults, reportDir })

theorem fileEntries_meets (tree : FileTree) (env : Environment) :
    ∃ problems result, FileReads tree env problems result ∧
      Meets (fileEntries tree env) problems result := by
  unfold fileEntries
  cases named : env.nonempty? Environment.configPath with
  | none => exact ⟨_, _, .unnamed named, meets_pure []⟩
  | some path =>
    obtain ⟨problems, result, reads, meets⟩ := ofFile_meets tree path
    exact ⟨_, _, .named named reads, meets⟩

/-- The settings are resolved with the same problems, strict or not. -/
theorem resolveUnder_meets (tree : FileTree) (env : Environment) :
    ∃ problems result, Resolves tree env problems result ∧
      Meets (resolveUnder tree env) problems result := by
  obtain ⟨problems, result, reads, meets⟩ := fileEntries_meets tree env
  unfold resolveUnder
  cases result with
  | error failure => exact ⟨_, _, .noEntries reads, meets.stops _⟩
  | ok entries =>
    obtain ⟨others, verdict, judges, judged⟩ := resolveLevel_judges (levelValue env entries)
    cases verdict with
    | error failure => exact ⟨_, _, .noLevel reads judges, meets.andThen (judged.stops _)⟩
    | ok level =>
      cases allowed : allowsFaults env entries with
      | error fault =>
        refine ⟨_, _, .notWritten reads judges (Or.inl allowed), meets.andThen ?_⟩
        exact judged.andThenQuietly ((attempt_meets_of_error allowed).stops _)
      | ok allowFaults =>
        have first := attempt_meets_of_ok allowed
        cases written : reportPath? env entries with
        | error fault =>
          refine ⟨_, _, .notWritten reads judges (Or.inr written), meets.andThen ?_⟩
          exact judged.andThenQuietly (first.andThen ((attempt_meets_of_error written).stops _))
        | ok reportDir =>
          refine ⟨_, _, .resolved reads judges allowed written, meets.andThen ?_⟩
          have second := attempt_meets_of_ok written
          exact judged.andThenQuietly (first.andThen (second.andThen (meets_pure _)))

end Resolved

section Strictness

variable {env other : Environment}

/-- Environments that differ in nothing but how strict they ask settings to be. -/
def DifferInStrictness (env other : Environment) : Prop :=
  ∀ name, name ≠ Environment.strictness → other.lookup name = env.lookup name

theorem DifferInStrictness.nonempty? (differ : DifferInStrictness env other) (name : String)
    (setting : name ≠ Environment.strictness) : other.nonempty? name = env.nonempty? name := by
  rw [Environment.nonempty?, Environment.nonempty?, differ name setting]

/-- A setting is the same in environments that differ in strictness. -/
theorem DifferInStrictness.settingOf (differ : DifferInStrictness env other) (entries : Entries)
    (key : Key) : settingOf other entries key = settingOf env entries key := by
  unfold Settings.settingOf
  rw [differ.nonempty? Environment.logLevel (by decide), differ Environment.allowFaults (by decide),
    differ.nonempty? Environment.reportDir (by decide)]

/-- What a run is set to do depends on the strictness only through what is done about problems. -/
theorem DifferInStrictness.resolveUnder (differ : DifferInStrictness env other) (tree : FileTree)
    (strict : Bool) : resolveUnder tree other strict = resolveUnder tree env strict := by
  simp only [Settings.resolveUnder, fileEntries, levelValue, allowsFaults, reportPath?,
    differ.settingOf, differ.nonempty? Environment.configPath (by decide)]

end Strictness

section Agreement

variable {tree : FileTree} {path : String} {env other : Environment} {problems : List Problem}
  {value : Value} {level : LevelChoice}

theorem Reads.not_of_level {result : Except Failure Entries} (reads : Reads tree path problems result)
    (shown : String) : .unknownLevel shown ∉ problems := by
  cases reads <;> simp

theorem FileReads.not_of_level {result : Except Failure Entries}
    (reads : FileReads tree env problems result) (shown : String) : .unknownLevel shown ∉ problems := by
  cases reads with
  | unnamed => exact List.not_mem_nil
  | named _ reads => exact reads.not_of_level shown

/-- There is a problem with a level that is given and denotes none, and with minus one. -/
theorem Judges.problems_iff (judges : Judges value problems (.ok level)) :
    problems ≠ [] ↔
      isGiven value = true ∧ (value = .int (-1) ∨ ∀ level, ¬ Denotes value level) := by
  cases judges with
  | absent absent => simp [absent]
  | known given denotes other =>
    refine iff_of_false (fun some => some rfl) ?_
    rintro ⟨_, rfl | nothing⟩
    · cases denotes
      exact other rfl
    · exact nothing _ denotes
  | unknown given nothing => exact iff_of_true (List.cons_ne_nil _ _) ⟨given, Or.inr nothing⟩
  | minusOne same =>
    refine iff_of_true (List.cons_ne_nil _ _) ⟨?_, Or.inl same⟩
    rw [same]
    rfl

/-- Minus one is chosen though it is complained about; any other level that is complained about is
the default. -/
theorem Judges.level_eq (judges : Judges value problems (.ok level)) :
    (value = .int (-1) → level = .number (-1)) ∧
    (problems ≠ [] → problems = [.unknownLevel value.repr] ∧
      (value ≠ .int (-1) → level = Log.defaultLevel)) ∧
    (problems = [] → isGiven value = true → Denotes value level) := by
  cases judges with
  | absent absent =>
    refine ⟨?_, fun some => absurd rfl some, fun _ given => ?_⟩
    · rintro rfl
      cases absent
    · rw [absent] at given
      cases given
  | known given denotes other =>
    refine ⟨?_, fun some => absurd rfl some, fun _ _ => denotes⟩
    rintro rfl
    cases denotes
    rfl
  | unknown given nothing =>
    refine ⟨?_, fun _ => ⟨rfl, fun _ => rfl⟩, nofun⟩
    rintro rfl
    exact absurd (.number (-1)) (nothing _)
  | minusOne same => exact ⟨fun _ => rfl, fun _ => ⟨rfl, absurd same⟩, nofun⟩

/-- Where settings need not be right, it is warned of a given level that denotes nothing, for which the
default is used, and of minus one, which is used all the same; any other given level is the one that
its value denotes. Where they have to be right, the run ends over a level if it is warned of there and
nothing is wrong with the file before. -/
theorem level_verdict {strictEnv : Environment} {session after : Log.Session} {settings : Settings}
    (lenient : isStrict env false = false) (strict : isStrict strictEnv false = true)
    (differ : DifferInStrictness env strictEnv)
    (resolved : (resolve tree env).run.run session = (.ok settings, after)) :
    ∃ problems others entries,
      FileReads tree env problems (.ok entries) ∧ after = noted session (problems ++ others) ∧
      (others ≠ [] ↔ isGiven (levelValue env entries) = true ∧
        (levelValue env entries = .int (-1) ∨ ∀ level, ¬ Denotes (levelValue env entries) level)) ∧
      (others ≠ [] → others = [.unknownLevel (levelValue env entries).repr] ∧
        (levelValue env entries ≠ .int (-1) → settings.level = Log.defaultLevel)) ∧
      (others = [] → isGiven (levelValue env entries) = true →
        Denotes (levelValue env entries) settings.level) ∧
      (levelValue env entries = .int (-1) → settings.level = .number (-1)) ∧
      ((∃ shown, (resolve tree strictEnv).run.run session =
          (.error (.invalid (.unknownLevel shown)), session)) ↔ problems = [] ∧ others ≠ []) ∧
      ((∃ problem, (resolve tree strictEnv).run.run session =
          (.error (.invalid problem), session)) ↔ problems ++ others ≠ []) := by
  -- Both runs meet one list of problems: first those of the file, then those of the level.
  obtain ⟨all, result, resolves, meets⟩ := resolveUnder_meets tree env
  have run := meets.lenient session
  have strictly := meets.strict session
  rw [resolve, lenient, run] at resolved
  cases resolved
  rw [resolve, strict, differ.resolveUnder, strictly]
  cases resolves with
  | resolved reads judges allowed written =>
    rename_i problems others entries level allowFaults reportDir
    have settled := judges.level_eq
    refine ⟨problems, others, entries, reads, rfl, judges.problems_iff, settled.2.1, settled.2.2,
      settled.1, ?_, ?_⟩
    · constructor
      · rintro ⟨shown, stopped⟩
        have first := ended_ok_eq_invalid_iff.mp (congrArg Prod.fst stopped)
        cases problems with
        | nil => exact ⟨rfl, List.ne_nil_of_mem (List.mem_of_head? first)⟩
        | cons problem more =>
          have same : problem = .unknownLevel shown := Option.some.inj first
          exact absurd (same ▸ List.mem_cons_self ..) (reads.not_of_level shown)
      · rintro ⟨rfl, some⟩
        rw [(settled.2.1 some).1]
        exact ⟨_, rfl⟩
    · constructor
      · rintro ⟨problem, stopped⟩
        have first := ended_ok_eq_invalid_iff.mp (congrArg Prod.fst stopped)
        exact List.ne_nil_of_mem (List.mem_of_head? first)
      · intro some
        refine ⟨(problems ++ others).head some, Prod.ext ?_ rfl⟩
        exact ended_ok_eq_invalid_iff.mpr (List.head?_eq_some_head some)

end Agreement

/-- A file that sets the level to minus one: it is warned that another level is used, and it is not. -/
theorem minusOne_level_kept :
    let bytes : List UInt8 := [108, 111, 103, 95, 108, 101, 118, 101, 108, 58, 32, 45, 49]
    let tree : FileTree := ⟨[(["s"], .file bytes)], []⟩
    let env : Environment := [(Environment.configPath, "s")]
    let strictEnv : Environment := (Environment.strictness, "1") :: env
    ∃ settings after, (resolve tree env).run.run .start = (.ok settings, after) ∧
      after.records.map (·.message) = ["Unknown log level -1; using WARNING"] ∧
      settings.level = .number (-1) ∧
      ∃ problem, (resolve tree strictEnv).run.run .start = (.error (.invalid problem), .start) := by
  intro bytes tree env strictEnv
  have differ : DifferInStrictness env strictEnv := by
    intro name setting
    rw [List.lookup_cons, beq_false_of_ne setting]
  obtain ⟨settings, after, run, noticed, kept⟩ : ∃ settings after,
      (resolve tree env).run.run .start = (.ok settings, after) ∧
      after.records.map (·.message) = ["Unknown log level -1; using WARNING"] ∧
      settings.level = .number (-1) := by
    have shown : ((resolve tree env).run.run .start).1.toOption.map (·.level) =
          some (.number (-1)) ∧
        ((resolve tree env).run.run .start).2.records.map (·.message) =
          ["Unknown log level -1; using WARNING"] := by decide +kernel
    generalize (resolve tree env).run.run .start = ended at shown ⊢
    obtain ⟨result, after⟩ := ended
    obtain ⟨level, messages⟩ := shown
    cases result with
    | error failure => cases level
    | ok settings => exact ⟨settings, after, rfl, messages, Option.some.inj level⟩
  obtain ⟨problems, others, _, _, same, _, _, _, _, _, stops⟩ :=
    level_verdict (by decide +kernel) (by decide +kernel) differ run
  refine ⟨settings, after, run, noticed, kept, stops.mpr fun none => ?_⟩
  rw [same, none] at noticed
  cases noticed

end CrateSurface.Settings
