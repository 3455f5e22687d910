import Chip8.Files
import Chip8.Headless
import Chip8.Proofs.Session.Doubles

/-!
# The status of a headless run

**Starting** (`create_eq`). A session is set up with integer frequencies, so whether one may start
is a matter of the bounds. If a file can be read and fits, there is a session, and it has run
nothing yet (`exists_create`). In every other case the report says that the run cannot start.

**Running** (`report_of_run`). The cycles of a run are all made. What the session has on record
afterwards is the tally of their results, and the report shows what is on record.

**The status** (`report_status`). So the status is one exactly if a cycle has faulted, however many
cycles come after, and the fault in the last entry of the log is the last one.
-/

namespace Chip8

open ClockArithmetic

/-- The faults of reading a file are those of paths, not of numbers. -/
theorem Files.read_ne_outOfRange (files : Files) (path : String) :
    files.read path ≠ .error .outOfRange := by
  unfold read
  split_ifs
  · exact nofun
  · split <;> exact nofun

namespace Session

variable {κ : Type}

theorem loadRom_of_error {read : FileReader} {path : String} {e : Fault} (s : Session κ)
    (hread : read path = .error e) : s.loadRom read path = .error e := by
  rw [loadRom, hread]

theorem loadRom_of_long {read : FileReader} {path : String} {program : Program} (s : Session κ)
    (hread : read path = .ok program) (hlong : longestProgram < program.length) :
    s.loadRom read path = .error (.programTooLong program.length) := by
  rw [loadRom, hread]
  simp only [loadProgram, Machine.loadProgram, if_pos hlong]
  rfl

theorem loadRom_of_fits {read : FileReader} {path : String} {program : Program} (s : Session κ)
    (hread : read path = .ok program) (hfits : program.length ≤ longestProgram) :
    ∃ machine log, s.loadRom read path =
      .ok { s with machine, program, romPath := some path, log } := by
  rw [loadRom, hread]
  simp only [loadProgram, Machine.loadProgram_eq_ok hfits]
  exact ⟨_, _, rfl⟩

end Session

namespace Headless

variable {read : FileReader} {o : CommandLine.Options}

/-! ## Starting -/

theorem frequencyAllowed_integer (f : Int) :
    Session.frequencyAllowed (Number.integer f) = decide (1 ≤ f ∧ f ≤ 1000000) := by
  show (le (Number.integer 1) (.integer f) && le (.integer f) (Number.integer 1000000)) = _
  rw [Number.le_integer, Number.le_integer, Bool.decide_and]

theorem create_of_frequency (h : o.frequency < 1 ∨ 1000000 < o.frequency) :
    Session.create read (settings o) =
      .error (.quoting (Number.integer o.frequency).text .instructionFrequency) := by
  have hnot : Session.frequencyAllowed (settings o).instructionFrequency = false := by
    show Session.frequencyAllowed (Number.integer o.frequency) = false
    rw [frequencyAllowed_integer, decide_eq_false (by omega)]
  rw [Session.create, hnot]
  rfl

/-- The text of an integer may fail, but not for the range of a number. -/
theorem quoting_ne_outOfRange {n : Int} :
    Fault.quoting (Number.integer n).text .instructionFrequency ≠ .outOfRange := by
  rw [Number.text, decimalText]
  cases Numeral.decimal? n <;> simp [Fault.quoting]

theorem create_eq (hlow : 1 ≤ o.frequency) (hhigh : o.frequency ≤ 1000000)
    (hseed : RandomKey.seedFits o.seed = true) :
    Session.create read (settings o) = (Session.fresh (settings o)).loadRom read o.rom := by
  have hallowed : Session.frequencyAllowed (settings o).instructionFrequency = true := by
    show Session.frequencyAllowed (Number.integer o.frequency) = true
    rw [frequencyAllowed_integer, decide_eq_true ⟨hlow, hhigh⟩]
  have htimer : le (settings o).timerFrequency (ofInt 0) = false := Number.le_integer 60 0
  have hseed' : RandomKey.seedFits (settings o).seed = true := hseed
  rw [Session.create, hallowed, htimer, hseed']
  rfl

/-- A session is set up, and has run nothing yet. -/
theorem exists_create {program : Program} (hread : read o.rom = .ok program)
    (hfits : program.length ≤ longestProgram) (hlow : 1 ≤ o.frequency)
    (hhigh : o.frequency ≤ 1000000) (hseed : RandomKey.seedFits o.seed = true) :
    ∃ s, Session.create read (settings o) = .ok s ∧ s.Settled ∧ s.tally = Tally.start ∧
      s.paused = false ∧ s.timerFrequency = .integer 60 ∧
      s.instructionFrequency = .integer o.frequency := by
  obtain ⟨machine, log, hload⟩ :=
    Session.loadRom_of_fits (Session.fresh (settings o)) hread hfits
  rw [create_eq hlow hhigh hseed, hload]
  exact ⟨_, rfl, ⟨hfits, 0, rfl, le_rfl, zero_le_one⟩, rfl, rfl, rfl, rfl⟩

/-- A run that cannot start shows nothing. -/
theorem report_of_error {e : Fault} (hcreate : Session.create read (settings o) = .error e)
    (he : e ≠ .outOfRange) :
    ∃ r, report read o = .ok r ∧ r.status = 2 ∧ r.output = [] := by
  refine ⟨cannotStart e, ?_, rfl, rfl⟩
  rw [report, hcreate]
  cases e with
  | outOfRange => exact absurd rfl he
  | _ => rfl

/-! ## Running -/

theorem report_of_run {s t : Session Number} {w : Session.Work}
    (hcreate : Session.create read (settings o) = .ok s) (hrun : s.run o.cycles = .done t w)
    (hlist : o.disassemble = 0) : report read o = .ok (finished t) := by
  rw [report, hcreate]
  simp only [hlist, ne_eq, not_true_eq_false, if_false, running, Session.runWith_fst, hrun]
  rfl

theorem finished_status (s : Session Number) :
    (finished s).status = if s.failure.isSome then 1 else 0 := by
  unfold finished
  cases hfailure : s.failure <;> simp only [Session.logged, hfailure] <;> rfl

theorem finished_output (s : Session Number) : (finished s).output = view s.machine := by
  unfold finished
  cases hfailure : s.failure <;> simp only [Session.logged, hfailure]

theorem finished_log {s : Session Number} {f : Failure} (h : s.failure = some f) :
    (finished s).log.getLast? = some ⟨.warning, failedText f⟩ := by
  unfold finished
  simp only [Session.logged, h, List.reverse_cons]
  exact List.getLast?_concat

/-- What a session has on record that has run nothing before. -/
theorem failure_run {s : Session Number} (hs : s.Settled) (hstart : s.tally = Tally.start)
    (n : Int) : (s.run n).session.failure = (Tally.ofResults (results (s.runTrace n))).failure := by
  have htally := (Session.traced_tally.run s n hs.fits).2
  rw [hstart] at htally
  exact congrArg Tally.failure htally

/-! ## The status -/

/-- The report tells of a run whose cycles had these results. -/
structure Tells (rs : List CycleResult) (r : Report) : Prop where
  one : r.status = 1 ↔ ∃ fault, .error fault ∈ rs
  zero : r.status = 0 ↔ ∀ fault, .error fault ∉ rs
  /-- The last entry of the log reports the last fault, and the instructions completed between the
  fault before it, if there was one, and this one. -/
  last : ∀ before fault after, rs = before ++ .error fault :: after →
    (∀ fault', .error fault' ∉ after) →
    r.log.getLast? = some ⟨.warning,
      failedText ⟨"StackFault: " ++ fault.message, completedSinceFault before⟩⟩

theorem finished_tells {s : Session Number} {rs : List CycleResult}
    (h : s.failure = (Tally.ofResults rs).failure) : Tells rs (finished s) where
  one := by
    rw [finished_status, h, ← Tally.failure_isSome_iff]
    cases (Tally.ofResults rs).failure.isSome <;> decide
  zero := by
    rw [finished_status, h, ← not_exists, ← Tally.failure_isSome_iff]
    cases (Tally.ofResults rs).failure.isSome <;> decide
  last before fault after hsplit hafter := by
    rw [hsplit, Tally.failure_ofResults before fault hafter] at h
    exact finished_log h

/-- **The status of a run.** If the program can be read and fits and the frequency is in range,
there is a session, all its cycles are made, and the status is one if one of them faults and zero
otherwise. In the first case the report tells of the last fault. If the run cannot start, the
status is two, and there is no output. -/
theorem report_status (read : FileReader) (o : CommandLine.Options)
    (hfile : read o.rom ≠ .error .outOfRange) :
    (∀ program, read o.rom = .ok program → program.length ≤ 3584 →
      1 ≤ o.frequency → o.frequency ≤ 1000000 → RandomKey.seedFits o.seed = true →
      o.disassemble = 0 →
      ∃ s r, Session.create read (settings o) = .ok s ∧ report read o = .ok r ∧
        (results (s.runTrace o.cycles)).length = o.cycles.toNat ∧
        Tells (results (s.runTrace o.cycles)) r ∧
        r.output = view (s.run o.cycles).session.machine) ∧
    (o.frequency < 1 ∨ 1000000 < o.frequency →
      ∃ r, report read o = .ok r ∧ r.status = 2 ∧ r.output = []) ∧
    (RandomKey.seedFits o.seed = true →
      (∃ e, read o.rom = .error e) ∨ (∃ program, read o.rom = .ok program ∧ 3584 < program.length) →
      ∃ r, report read o = .ok r ∧ r.status = 2 ∧ r.output = []) := by
  refine ⟨fun program hread hfits hlow hhigh hseed hlist => ?_,
    fun hfrequency => report_of_error (create_of_frequency hfrequency) quoting_ne_outOfRange,
    fun hseed hrefused => ?_⟩
  · obtain ⟨s, hcreate, hs, hstart, hpaused, htimer, hinstruction⟩ :=
      exists_create hread hfits hlow hhigh hseed
    obtain ⟨t, w, hrun, hlength⟩ := Session.run_settled hs hpaused htimer hinstruction (by decide)
      (by omega) (by omega) o.cycles
    have hfailure := failure_run hs hstart o.cycles
    rw [hrun] at hfailure
    refine ⟨s, finished t, hcreate, report_of_run hcreate hrun hlist, hlength,
      finished_tells hfailure, ?_⟩
    rw [finished_output, hrun]
    rfl
  · -- The frequency is looked at before the file, and has the same status if refused.
    by_cases hfrequency : 1 ≤ o.frequency ∧ o.frequency ≤ 1000000
    · have hcreate : Session.create read (settings o) = _ :=
        create_eq hfrequency.1 hfrequency.2 hseed
      rcases hrefused with ⟨e, hread⟩ | ⟨program, hread, hlong⟩
      · rw [Session.loadRom_of_error _ hread] at hcreate
        exact report_of_error hcreate fun he => hfile (he ▸ hread)
      · rw [Session.loadRom_of_long _ hread hlong] at hcreate
        exact report_of_error hcreate nofun
    · exact report_of_error (create_of_frequency (by omega)) quoting_ne_outOfRange

/-- A program that sets a register and returns without a call. In five cycles it faults twice, and
runs on. A path that leads nowhere and a frequency of zero are refused. -/
theorem report_status_crashing :
    let program : Program := [0x60, 0x07, 0x00, 0xEE]
    let files : Files := ⟨[("crash.ch8", program)], []⟩
    let o : CommandLine.Options := { rom := "crash.ch8", cycles := 5 }
    (∃ r, report files.read o = .ok r ∧ r.status = 1 ∧ r.log.getLast? = some ⟨.warning,
      "Run was reset after a failure at instruction 1: "
        ++ "StackFault: stack underflow: pop with sp=0x00"⟩) ∧
      (∃ r, report files.read { o with rom := "none.ch8" } = .ok r ∧ r.status = 2 ∧ r.output = []) ∧
      ∃ r, report files.read { o with frequency := 0 } = .ok r ∧ r.status = 2 ∧ r.output = [] := by
  intro program files o
  have hread : files.read o.rom = .ok program := by decide +kernel
  have hmissing : files.read "none.ch8" = .error (.unreadable "none.ch8" .missing) := by
    decide +kernel
  have hresults : (Session.create files.read (settings o)).map
      (fun s => results (s.runTrace o.cycles)) =
      .ok ([.ok .running, .error (.underflow 0), .ok .running]
        ++ .error (.underflow 0) :: [.ok .running]) := by decide +kernel
  obtain ⟨s, r, hcreate, hreport, -, htells, -⟩ :=
    (report_status files.read o (files.read_ne_outOfRange o.rom)).1 program hread (by decide)
      (by decide) (by decide) (by decide) rfl
  rw [hcreate] at hresults
  have hrs : results (s.runTrace o.cycles) = _ := Except.ok.inj hresults
  refine ⟨⟨r, hreport, ?_, ?_⟩, ?_, ?_⟩
  · refine htells.one.2 ⟨.underflow 0, ?_⟩
    rw [hrs]
    decide
  · rw [htells.last _ _ _ hrs (by simp)]
    decide +kernel
  · exact (report_status files.read _ (files.read_ne_outOfRange _)).2.2 (by decide)
      (.inl ⟨_, hmissing⟩)
  · exact (report_status files.read _ (files.read_ne_outOfRange _)).2.1 (by decide)

end Headless

end Chip8
