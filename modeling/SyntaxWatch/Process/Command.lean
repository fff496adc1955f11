import SyntaxWatch.Finding
import SyntaxWatch.Process.Host
import SyntaxWatch.Text.Utf8

/-!
# Commands

The command that checks a text: an interpreter with its flags, asked to compile only. A run writes
the text to a scratch file, starts the interpreter on it, and reads its error stream to the end;
the file is deleted however the run ends. A run that can be held back is split in two: `launch`
and then, when `progress` says so, `land` or `abandon`.

An interpreter that takes more time than it may is killed, and the run is over once it has ended. It
is asked to end time and again, but not for ever: it is given up after a number of attempts, or when
its grace is over. What it does then is its own affair, and the run is over all the same. A fault of
the error stream shows when the interpreter has ended, so there is nothing to kill then.

## Main definitions

* `Command.arguments`: the arguments of the interpreter.
* `Command.kill`: the forced end of an interpreter.
* `Command.launch`, `Command.progress`, `Command.land`, `Command.abandon`: the stages of a run.
* `Command.remaining?`: the time until a run is over.
* `Command.run`: a whole run.

## Main results

* `Command.kill_time_le`, `Command.kill_confirmed_iff`, `Command.kill_of_prompt`: a forced end takes
  bounded time, when it is confirmed, and when it takes no time at all.
* `Command.run_scratch_files`: a run leaves the scratch files as it found them.
-/

namespace SyntaxWatch

/-- How texts are checked: the interpreter and its flags, whether it is asked for warnings, the
milliseconds that a run may take, and those that an interpreter is then given to end. -/
structure Command where
  program : Text := "perl".toList
  flags : List Text := []
  warnings : Bool := false
  limit : Option Nat := none
  grace : Nat := 400
  deriving DecidableEq, Repr

/-- A run that has begun: the text under check, the number of its scratch file, and the time of its
start. -/
structure Flight where
  text : Text
  number : Nat
  since : Nat
  deriving DecidableEq, Repr

/-- How far a run is. -/
inductive Progress where
  | underway
  | ended
  /-- It took too long, and its interpreter is being killed. -/
  | dying
  /-- It took too long, and its interpreter has been killed or given up. -/
  | overdue (limit : Nat)
  deriving DecidableEq, Repr

namespace Command

/-- The arguments of the interpreter: its flags, the flag that asks to compile only, the flag that
asks for warnings, and the path of the input. -/
def arguments (c : Command) (input : Text) : List Text :=
  c.flags ++ "-c".toList :: (if c.warnings then ["-w".toList] else []) ++ [input]

/-! ### Forced ends -/

/-- How many times an interpreter is asked to end. -/
def killAttempts : Nat := 10

/-- The milliseconds between two requests. -/
def killInterval : Nat := 20

/-- Kills an interpreter that stays on for some time after the first request. With some attempts
left and some time spent already it is asked to end, and then looked at. It is given up with the
last attempt, or when the grace is over. Tells the time that is spent in the end, and whether the
interpreter is known to have ended. -/
def killRounds (grace lingers : Nat) : Nat → Nat → Nat × Bool
  | 0, spent => (spent, false)
  | left + 1, spent =>
    if lingers ≤ spent then (spent, true)
    else if left = 0 ∨ grace ≤ spent then (spent, false)
    else killRounds grace lingers left (spent + killInterval)

/-- The forced end of the interpreter on a host: the time that it takes, and whether the interpreter
is known to have ended. -/
def kill (c : Command) (h : Host) : Nat × Bool :=
  killRounds c.grace (h.behaviour c.program).lingers killAttempts 0

/-! ### The stages of a run -/

/-- Why the command cannot be started on an input. A NUL character cannot be passed on at all, and
is noticed first. -/
def obstacle? (c : Command) (h : Host) (input : Text) : Option SystemFault :=
  if (c.program :: c.arguments input).any (·.contains '\x00') then
    some .nul
  else
    match h.programs c.program with
    | .refused cause => some cause
    | _ => none

/-- Begins a run: writes the input and starts the interpreter on it. -/
def launch (c : Command) (h : Host) (text : Text) : Host × Except CheckFault Flight :=
  match h.scratch.write text with
  | (scratch, .error cause) =>
    ({ h with scratch }, .error (.input (h.scratch.path h.scratch.next) cause))
  | (scratch, .ok number) =>
    match c.obstacle? h (scratch.path number) with
    | some cause => ({ h with scratch := scratch.delete number }, .error (.start c.program cause))
    | none => ({ h with scratch }, .ok { text, number, since := h.clock })

/-- Whether the interpreter takes more time than a limit leaves it. -/
def isSlow (c : Command) (h : Host) (limit : Nat) : Bool :=
  h.holdsBack c.program || decide (limit ≤ (h.behaviour c.program).duration)

/-- Whether a run has taken more time than a limit leaves it. Once its interpreter is being killed,
this does not change any more, whatever happens to the gate. -/
def isLate (c : Command) (h : Host) (flight : Flight) (limit : Nat) : Bool :=
  h.hasCondemned flight.number ||
    (decide (flight.since + limit ≤ h.clock) && c.isSlow h limit)

/-- How far a run is. The killing begins when the limit has passed. -/
def progress (c : Command) (h : Host) (flight : Flight) : Progress :=
  match c.limit with
  | some limit =>
    if c.isLate h flight limit then
      if flight.since + limit + (c.kill h).1 ≤ h.clock then .overdue limit else .dying
    else if h.hasEnded c.program flight.since then .ended
    else .underway
  | none => if h.hasEnded c.program flight.since then .ended else .underway

/-- The limit that a run will not have kept, if it is let go on as it is. -/
def exceeded? (c : Command) (h : Host) (flight : Flight) : Option Nat :=
  c.limit.filter fun limit => h.hasCondemned flight.number || c.isSlow h limit

/-- The time until a run is over, when nothing but time passes. A run that is held back and has no
limit is not over at any time. -/
def remaining? (c : Command) (h : Host) (flight : Flight) : Option Nat :=
  match c.exceeded? h flight with
  | some limit => some (flight.since + limit + (c.kill h).1 - h.clock)
  | none =>
    if h.holdsBack c.program then none
    else some (flight.since + (h.behaviour c.program).duration - h.clock)

/-- The transcript of a run whose interpreter has ended. Bytes that are no text are replaced. -/
def transcript (c : Command) (h : Host) (flight : Flight) : Except CheckFault Transcript :=
  let input := h.scratch.path flight.number
  match (h.behaviour c.program).reply (c.arguments input) flight.text with
  | .ok bytes => .ok { output := Utf8.decodeLossy bytes, input }
  | .error cause => .error (.stream cause)

/-- Completes a run whose interpreter has ended. -/
def land (c : Command) (h : Host) (flight : Flight) : Host × Except CheckFault Transcript :=
  (h.discard flight.number, c.transcript h flight)

/-- Completes a run that took too long, once its interpreter has been killed or given up. -/
def abandon (h : Host) (flight : Flight) (limit : Nat) : Host × Except CheckFault Transcript :=
  (h.discard flight.number, .error (.overdue limit))

/-- A whole run, on a host that does not hold it back. -/
def run (c : Command) (h : Host) (text : Text) : Host × Except CheckFault Transcript :=
  match c.launch h text with
  | (h, .error fault) => (h, .error fault)
  | (h, .ok flight) =>
    match c.limit with
    | some limit => if c.isSlow h limit then abandon h flight limit else c.land h flight
    | none => c.land h flight

/-! ### How long a forced end takes -/

/-- The rounds of a forced end by induction on the attempts that are left: the end is known exactly
when the interpreter stays on no longer than the time that is spent. -/
theorem killRounds_confirmed_iff (grace lingers left spent : Nat) :
    (killRounds grace lingers (left + 1) spent).2 = true ↔
      lingers ≤ (killRounds grace lingers (left + 1) spent).1 := by
  induction left generalizing spent with
  | zero =>
    rw [killRounds]
    split <;> simp_all
  | succ left ih =>
    rw [killRounds]
    split
    · simp_all
    · split
      · simp_all
      · exact ih _

/-- No round begins after the last attempt, and none after the grace is over. -/
theorem killRounds_time_le (grace lingers left spent : Nat) :
    (killRounds grace lingers (left + 1) spent).1 ≤ spent + killInterval * left ∧
      (spent < grace + killInterval →
        (killRounds grace lingers (left + 1) spent).1 < grace + killInterval) := by
  induction left generalizing spent with
  | zero =>
    rw [killRounds]
    split <;> simp
  | succ left ih =>
    rw [killRounds]
    split
    · exact ⟨Nat.le_add_right _ _, id⟩
    · split
      · exact ⟨Nat.le_add_right _ _, id⟩
      · next going =>
        obtain ⟨bound, late⟩ := ih (spent + killInterval)
        have early : spent < grace := by omega
        exact ⟨by rw [Nat.mul_succ]; omega, fun _ => late (by omega)⟩

/-- A forced end is bounded by the number of attempts, and by the grace with one interval more. -/
theorem kill_time_le (c : Command) (h : Host) :
    (c.kill h).1 ≤ killInterval * (killAttempts - 1) ∧ (c.kill h).1 < c.grace + killInterval := by
  obtain ⟨bound, early⟩ :=
    killRounds_time_le c.grace (h.behaviour c.program).lingers (killAttempts - 1) 0
  rw [Nat.zero_add] at bound
  exact ⟨bound, early (Nat.lt_add_left _ (by decide))⟩

/-- An interpreter is known to have ended exactly when it stays on no longer than the time that was
spent on its end. -/
theorem kill_confirmed_iff (c : Command) (h : Host) :
    (c.kill h).2 = true ↔ (h.behaviour c.program).lingers ≤ (c.kill h).1 :=
  killRounds_confirmed_iff _ _ _ _

/-- An interpreter that heeds the first request, or has ended before, costs no time. -/
theorem kill_of_prompt {c : Command} {h : Host} (prompt : (h.behaviour c.program).lingers = 0) :
    c.kill h = (0, true) := by
  rw [kill, prompt]
  rfl

/-! ### Runs and scratch files -/

/-- The files after a start: one more when it succeeds, the same when it fails. That goes for every
failure, also for the one in which the file had been made before. -/
theorem launch_cases (c : Command) (h : Host) (text : Text) :
    (∃ fault, (c.launch h text).2 = .error fault ∧
        (c.launch h text).1.scratch.files = h.scratch.files) ∨
      ∃ flight, (c.launch h text).2 = .ok flight ∧ flight.text = text ∧
        (c.launch h text).1.scratch.files = h.scratch.files ++ [(flight.number, text)] ∧
        ((c.launch h text).1.scratch.delete flight.number).files = h.scratch.files := by
  obtain ⟨-, absent⟩ | ⟨scratch, -, -, -, -, -, made⟩ := h.scratch.write_cases text
  · exact .inl ⟨.input (h.scratch.path h.scratch.next) .notFound, by simp [launch, absent]⟩
  · obtain ⟨cause, -, refused, files⟩ | ⟨-, written, files, old⟩ := made
    · exact .inl ⟨.input (h.scratch.path h.scratch.next) cause, by simp [launch, refused, files]⟩
    · cases hob : c.obstacle? h (scratch.path h.scratch.next) with
      | some cause =>
        exact .inl ⟨.start c.program cause, by simpa only [launch, written, hob, true_and]⟩
      | none =>
        refine .inr ⟨⟨text, h.scratch.next, h.clock⟩, ?_, rfl, ?_, ?_⟩ <;>
          simp only [launch, written, hob, files, old]

/-- A run leaves the scratch files as it found them, however it ends. -/
theorem run_scratch_files (c : Command) (h : Host) (text : Text) :
    (c.run h text).1.scratch.files = h.scratch.files := by
  unfold run
  rcases c.launch_cases h text with ⟨fault, hfault, files⟩ | ⟨flight, hflight, -, -, files⟩
  · rw [← files]
    cases hl : c.launch h text with
    | mk host result =>
      rw [hl] at hfault
      subst hfault
      rfl
  · cases hl : c.launch h text with
    | mk host result =>
      rw [hl] at hflight files
      subst hflight
      dsimp only
      cases c.limit with
      | none => exact files
      | some limit =>
        dsimp only
        split <;> exact files

/-- On a full device the file of a run is made, and gone when the run has failed. -/
example :
    let full : Host := {
      scratch := {
        location := "/tmp".toList
        refuses := fun _ _ => some .noSpace
        next := 1
        lt_next := List.forall_mem_nil _ }
      programs := fun _ => .studied }
    let (after, result) := ({} : Command).run full "x".toList
    result = .error (.input "/tmp/perl-syntax-1.pl".toList .noSpace) ∧ after.scratch.files = [] ∧
      after.scratch.next = 2 :=
  ⟨rfl, rfl, rfl⟩

end Command

end SyntaxWatch
