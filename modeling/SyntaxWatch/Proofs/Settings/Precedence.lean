import SyntaxWatch.Program.Console
import SyntaxWatch.Proofs.Server.Tracking

/-!
# Which source of settings wins

A key is settled by the first source that sets it: the command line, then the file of the project,
then the file of the user, then the default. Two keys have rules of their own. The flags of the
command line count as set when there are any, and a list of flags wins or loses as a whole; the
command line can ask for warnings, but it cannot forbid them.

A file that is named and cannot be loaded is a fault, and the user's file is looked at first.

The settings reach both programs. A watcher and a session that are set up with them give a checker
that is killed, and a worker that is stopped, the same grace, and no step changes it.

## Main definitions

* `Prevails`: the first source that says something.
* `Layer.Says`, `Layer.Fails`: what becomes of a file that may be named.
* `Settings.Combines`: what a command line and two files come to, key by key.
* `Settings.Precedence`: the whole law.

## Main results

* `Settings.precedence`: the law holds for all command lines and files.
-/

namespace SyntaxWatch

/-! ### Sources in order -/

/-- What some sources come to, the strongest one first: the first one that says something settles
the matter, and the others are not heard. -/
inductive Prevails {α : Type} : List (Option α) → Option α → Prop
  | speaks (value : α) (others : List (Option α)) : Prevails (some value :: others) (some value)
  | silent {others : List (Option α)} {result : Option α} (rest : Prevails others result) :
      Prevails (none :: others) result
  | nobody : Prevails [] none

section

variable {α : Type} {sources : List (Option α)} {result : Option α}

/-- A source that is put in front settles the matter when it says something. -/
theorem Prevails.cons (prevails : Prevails sources result) (source : Option α) :
    Prevails (source :: sources) (source <|> result) := by
  cases source with
  | none => exact .silent prevails
  | some value => exact .speaks value sources

/-- A single source settles the matter by what it says. -/
theorem prevails_singleton (source : Option α) : Prevails [source] source := by
  cases source with
  | none => exact .silent .nobody
  | some value => exact .speaks value []

/-- A default is one more source, and the weakest one. -/
theorem Prevails.concat (prevails : Prevails sources result) (fallback : α) :
    Prevails (sources ++ [some fallback]) (some (result.getD fallback)) := by
  induction prevails with
  | speaks value others => exact .speaks value _
  | silent _ ih => exact .silent ih
  | nobody => exact .speaks fallback []

/-- Sources leave no doubt. -/
theorem Prevails.unique {other : Option α} (prevails : Prevails sources result)
    (prevails' : Prevails sources other) : result = other := by
  induction prevails with
  | speaks =>
      cases prevails'
      rfl
  | silent _ ih =>
      cases prevails' with
      | silent rest => exact ih rest
  | nobody =>
      cases prevails'
      rfl

end

/-! ### Files that may be named -/

namespace Layer

variable {read? : Text → Option Text}

/-- A file that is not named says nothing, and one that is named says what it is read to say. -/
inductive Says (read? : Text → Option Text) : Option Text → Layer → Prop
  | unnamed : Says read? none {}
  | named {path : Text} {layer : Layer} (loaded : Layer.load read? path = .ok layer) :
      Says read? (some path) layer

/-- A file is named and cannot be loaded. -/
def Fails (read? : Text → Option Text) (path : Option Text) (fault : SettingsFault) : Prop :=
  ∃ named, path = some named ∧ Layer.load read? named = .error fault

/-- A file that may be named fails exactly when it is named and cannot be loaded. -/
theorem loadNamed_eq_error_iff (path : Option Text) (fault : SettingsFault) :
    Layer.loadNamed read? path = .error fault ↔ Fails read? path fault := by
  cases path with
  | none => simp [Layer.loadNamed, Fails]
  | some path => simp [Layer.loadNamed, Fails]

/-- A file that may be named is loaded exactly as what it says. -/
theorem loadNamed_eq_ok_iff {path : Option Text} {layer : Layer} :
    Layer.loadNamed read? path = .ok layer ↔ Says read? path layer := by
  constructor
  · intro loaded
    cases path with
    | none => cases loaded; exact .unnamed
    | some path => exact .named loaded
  · rintro (_ | loaded)
    · rfl
    · exact loaded

/-- A file that does not fail says something, be it nothing. -/
theorem says_of_fine {path : Option Text} (fine : ∀ fault, ¬Fails read? path fault) :
    ∃ layer, Layer.loadNamed read? path = .ok layer ∧ Says read? path layer := by
  cases path with
  | none => exact ⟨{}, rfl, .unnamed⟩
  | some path =>
      cases hload : Layer.load read? path with
      | error fault => exact absurd ⟨path, rfl, hload⟩ (fine fault)
      | ok layer => exact ⟨layer, hload, .named hload⟩

end Layer

/-! ### One key after the other -/

/-- The flags of a command line, if there are any. -/
def Options.flags? (o : Options) : Option (List Text) :=
  if o.flags = [] then none else some o.flags

namespace Settings

variable {o : Options} {higher lower : Layer} {project : Option Text}

/-- What a command line and two files come to, key by key. -/
structure Combines (o : Options) (higher lower : Layer) (s : Settings) : Prop where
  interpreter : Prevails [o.interpreter, higher.interpreter, lower.interpreter,
    some "perl".toList] (some s.interpreter)
  interval : Prevails [o.interval, higher.interval, lower.interval, some 2000] (some s.interval)
  grace : Prevails [o.grace, higher.grace, lower.grace, some 400] (some s.grace)
  cap : Prevails [o.cap, higher.cap, lower.cap, some 10] (some s.cap)
  limit : Prevails [o.limit, higher.limit, lower.limit] s.limit
  /-- A list of flags is taken as it is, even an empty one of a file. -/
  flags : Prevails [o.flags?, higher.flags, lower.flags, some []] (some s.flags)
  /-- The command line only ever asks for warnings. -/
  warnings : s.warnings = true ↔
    o.warnings = true ∨ Prevails [higher.warnings, lower.warnings] (some true)
  /-- In every state of a watcher that is set up with the settings, a forced end of its checker and
  its own end are given the same time. -/
  graces : ∀ t : Task, t.settings = s → ∀ h text steps,
    ((t.watch h text).run steps).1.command.grace = s.grace ∧
      ((t.watch h text).run steps).1.grace = s.grace
  /-- And so they are in every state of a session of the language server. -/
  serverGraces : ∀ h shuffle steps,
    ((Session.fresh s h shuffle).run steps).1.settings.command.grace = s.grace ∧
      ((Session.fresh s h shuffle).run steps).1.settings.grace = s.grace

/-- Laying one file over the other and the command line over both is asking them in order. -/
theorem prevails_layers {α : Type} (first second third : Option α) :
    Prevails [first, second, third] (first <|> (second <|> third)) :=
  ((prevails_singleton third).cons second).cons first

/-- The flags of a command line count as set when there are any, and hide those of the files as a
whole. -/
theorem flags_resolve (o : Options) (file : Layer) (project : Option Text) :
    (resolve o file project).flags = (o.flags? <|> file.flags).getD [] := by
  dsimp only [resolve, Options.flags?]
  split <;> rfl

/-- The command line and the files taken together are asked key by key. -/
theorem combines_resolve (o : Options) (higher lower : Layer) (project : Option Text) :
    Combines o higher lower (resolve o (higher.above lower) project) where
  interpreter := (prevails_layers o.interpreter higher.interpreter lower.interpreter).concat _
  interval := (prevails_layers o.interval higher.interval lower.interval).concat _
  grace := (prevails_layers o.grace higher.grace lower.grace).concat _
  cap := (prevails_layers o.cap higher.cap lower.cap).concat _
  limit := prevails_layers o.limit higher.limit lower.limit
  flags := by
    rw [flags_resolve]
    exact (prevails_layers o.flags? higher.flags lower.flags).concat _
  warnings := by
    have files : Prevails [higher.warnings, lower.warnings] (higher.above lower).warnings :=
      (prevails_singleton lower.warnings).cons higher.warnings
    have said : (higher.above lower).warnings.getD false = true ↔
        Prevails [higher.warnings, lower.warnings] (some true) := by
      constructor
      · intro asked
        cases hfile : (higher.above lower).warnings with
        | none =>
            rw [hfile] at asked
            cases asked
        | some value =>
            rw [hfile] at asked files
            rw [← show value = true from asked]
            exact files
      · intro asked
        rw [files.unique asked]
        rfl
    rw [← said]
    exact Bool.or_eq_true_iff
  graces := by
    rintro t same h text steps
    obtain ⟨command, grace⟩ := (t.watch h text).run_frame steps
    rw [command, grace, ← same]
    exact ⟨rfl, rfl⟩
  serverGraces := by
    intro h shuffle steps
    rw [Session.run_settings (Session.tidy_fresh _ h shuffle)]
    exact ⟨rfl, rfl⟩

/-! ### All keys together -/

/-- What becomes of a command line and two files that may be named, given how files are read. -/
structure Precedence (read? : Text → Option Text) (o : Options) (user project : Option Text) :
    Prop where
  /-- There are no settings exactly when a file fails, and the user's file is asked first. -/
  fails : ∀ fault, ofSources read? o user project = .error fault ↔
    Layer.Fails read? user fault ∨
      (∀ other, ¬Layer.Fails read? user other) ∧ Layer.Fails read? project fault
  /-- Otherwise there are settings, and they follow the order of the sources. -/
  combines : (∀ fault, ¬Layer.Fails read? user fault) →
    (∀ fault, ¬Layer.Fails read? project fault) →
    ∃ higher lower s, Layer.Says read? project higher ∧ Layer.Says read? user lower ∧
      ofSources read? o user project = .ok s ∧ Combines o higher lower s

/-- The sources of settings have an order of precedence: whatever is said on the command line and in
the files, and whether the files can be loaded or not. -/
theorem precedence (read? : Text → Option Text) (o : Options) (user project : Option Text) :
    Precedence read? o user project where
  fails fault := by
    simp only [← Layer.loadNamed_eq_error_iff]
    cases hlower : Layer.loadNamed read? user with
    | error first => simp [ofSources, hlower, bind, Except.bind]
    | ok lower =>
        cases hhigher : Layer.loadNamed read? project with
        | error second => simp [ofSources, hlower, hhigher, bind, Except.bind]
        | ok higher => simp [ofSources, hlower, hhigher, bind, Except.bind, pure, Except.pure]
  combines fine fine' := by
    obtain ⟨lower, hlower, told⟩ := Layer.says_of_fine fine
    obtain ⟨higher, hhigher, told'⟩ := Layer.says_of_fine fine'
    refine ⟨higher, lower, _, told', told, ?_, combines_resolve o higher lower project⟩
    rw [ofSources, hlower, hhigher]
    rfl

/-- A list of flags that is empty hides the one below it. -/
example :
    let hidden : Layer := { flags := some ["-T".toList] }
    (resolve {} (Layer.above { flags := some [] } hidden) none).flags = [] := rfl

end Settings

end SyntaxWatch
