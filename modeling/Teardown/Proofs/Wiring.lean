import Mathlib.Tactic.Lemma
import Teardown.Proofs.Decimal.Bits
import Teardown.Proofs.Settings.Accepted
import Teardown.Worker

/-!
# Wiring accepted settings

Settings are checked when they are loaded, and the parts that they determine are checked again when
they are wired: the client refuses blank texts and numbers out of range, and the database a blank
address.  Loaded settings pass the second checks except for the two addresses, of the database and
of the remote service, whose texts are loaded as they stand.  `load_wiring` says that a second check
fails exactly for settings in which one of these two texts is blank.
-/

namespace Teardown

/-! ### The checks of the client -/

namespace Github

/-- A text that is stripped already passes the check for blank texts as it is. -/
lemma stripped_of_inked (argument : String) {text : String} (h : Settings.Inked text) :
    stripped argument text = .ok text := by
  unfold stripped
  rw [h.stripped, if_neg h.nonempty]

/-- All arguments of a configuration are in range; nothing is said about its base address. -/
structure Config.Fit (c : Config) : Prop where
  token : Settings.Inked c.token
  owner : Settings.Inked c.owner
  repository : Settings.Inked c.repository
  workflow : Settings.Inked c.workflow
  ref : Settings.Inked c.ref
  requestTimeout : c.requestTimeout.notPositive = false
  lookupAttempts : 1 ≤ c.lookupAttempts
  lookupInterval : c.lookupInterval.isNegative = false

variable {c : Config} {failure : Failure}

/-- The check of such a configuration is the check of its base address. -/
lemma Config.Fit.checkArguments_eq (h : c.Fit) :
    c.checkArguments = (stripped "base_url" c.baseUrl).map fun baseUrl =>
      (c.token, c.owner, c.repository, c.workflow, c.ref, baseUrl) := by
  have hattempts : ¬ c.lookupAttempts < 1 := Int.not_lt.mpr h.lookupAttempts
  unfold checkArguments
  rw [stripped_of_inked _ h.token, stripped_of_inked _ h.owner, stripped_of_inked _ h.repository,
    stripped_of_inked _ h.workflow, stripped_of_inked _ h.ref, h.requestTimeout, h.lookupInterval]
  simp only [hattempts, if_false]
  cases stripped "base_url" c.baseUrl <;> rfl

/-- Such a configuration is refused exactly for a blank base address. -/
lemma Config.Fit.checkArguments_eq_error_iff (h : c.Fit) {reason : Refusal} :
    c.checkArguments = .error reason ↔
      reason = .blank "base_url" ∧ Text.strip c.baseUrl = "" := by
  rw [h.checkArguments_eq]
  unfold stripped
  split
  · rename_i hblank
    simp [Except.map, hblank, eq_comm]
  · rename_i hink
    simp [Except.map, hink]

section Address

variable {text scheme authority : String}

/-- The failure is known by its name only, so that it is no refusal of an argument. -/
def Foreign (failure : Failure) : Prop :=
  ∃ kind message, failure = .named kind message

lemma foreign_of_checkPrintable (h : checkPrintable text = .error failure) : Foreign failure := by
  unfold checkPrintable at h
  dsimp only at h
  split at h
  · cases h
  · cases h
    exact ⟨_, _, rfl⟩

lemma foreign_of_portSuffix (h : portSuffix scheme text = .error failure) : Foreign failure := by
  unfold portSuffix at h
  split at h
  · cases h
  · split at h
    · cases h
      exact ⟨_, _, rfl⟩
    · cases h

lemma foreign_of_originOf (h : originOf scheme authority = .error failure) : Foreign failure := by
  unfold originOf at h
  dsimp only at h
  rcases Except.eq_error_of_bind h with hport | ⟨_, _, hnever⟩
  · exact foreign_of_portSuffix hport
  · cases hnever

/-- An address that cannot be read is no refused argument. -/
lemma Address.foreign_of_ofText (h : Address.ofText text = .error failure) : Foreign failure := by
  rcases Except.eq_error_of_bind h with hprintable | ⟨_, _, h⟩
  · exact foreign_of_checkPrintable hprintable
  · dsimp only at h
    split at h
    · rcases Except.eq_error_of_bind h with horigin | ⟨_, _, hnever⟩
      · exact foreign_of_originOf horigin
      · cases hnever
    · cases h

end Address

/-- A configuration fails its check by a refused argument, or by a failure that is none. -/
lemma Config.cases_of_check (h : c.check = .error failure) :
    (∃ reason, c.checkArguments = .error reason ∧ failure = .refused reason) ∨ Foreign failure := by
  rcases Except.eq_error_of_bind h with hrefused | ⟨_, _, h⟩
  · obtain ⟨reason, hchecked, rfl⟩ := Except.exists_of_mapError_eq_error hrefused
    exact .inl ⟨reason, hchecked, rfl⟩
  · rcases Except.eq_error_of_bind h with haddress | ⟨_, _, h⟩
    · exact .inr (Address.foreign_of_ofText haddress)
    · split at h
      · cases h
        exact .inr ⟨_, _, rfl⟩
      · cases h

/-- A configuration is refused if and only if the check of its arguments refuses it. -/
lemma Config.check_eq_refused_iff {reason : Refusal} :
    c.check = .error (.refused reason) ↔ c.checkArguments = .error reason := by
  constructor
  · intro h
    rcases cases_of_check h with ⟨_, hrefused, hsame⟩ | ⟨_, _, hforeign⟩
    · cases hsame
      exact hrefused
    · cases hforeign
  · intro h
    unfold check
    rw [h]
    rfl

end Github

/-! ### The check of the database address -/

namespace Database

/-- The text of a port fails to be a number, and not to be there. -/
lemma ne_blank_of_readPortNumber {port : Option String} {cause : UrlError}
    (h : readPortNumber port = .error cause) : cause ≠ .blank := by
  unfold readPortNumber at h
  split at h
  · cases h
  · cases h
    exact UrlError.noConfusion
  · split at h
    · cases h
    · cases h
      exact UrlError.noConfusion

/-- Taking an address apart does not fail for its being blank. -/
lemma Url.ne_blank_of_ofText {text : String} {cause : UrlError}
    (h : Url.ofText text = .error cause) : cause ≠ .blank := by
  unfold Url.ofText at h
  dsimp only at h
  split at h
  · cases h
    exact UrlError.noConfusion
  · rcases Except.eq_error_of_bind h with hport | ⟨_, _, hnever⟩
    · exact ne_blank_of_readPortNumber hport
    · cases hnever

/-- An address is refused as blank if and only if its text is. -/
lemma connect_eq_blank_iff {text : String} :
    connect text = .error .blank ↔ Text.strip text = "" := by
  unfold connect
  dsimp only
  split
  · rename_i hblank
    exact iff_of_true rfl hblank
  · rename_i hink
    refine iff_of_false (fun h => ?_) hink
    rcases Except.eq_error_of_bind h with hread | ⟨u, _, h⟩
    · exact Url.ne_blank_of_ofText hread rfl
    · rcases Except.eq_error_of_bind h with hdriver | ⟨_, _, h⟩
      · unfold Url.checkDriver at hdriver
        split at hdriver <;> cases hdriver
      · rcases Except.eq_error_of_bind h with hplace | ⟨_, _, h⟩
        · unfold Url.checkPlace at hplace
          dsimp only at hplace
          split at hplace <;> cases hplace
        · cases h

end Database

/-! ### Loaded settings -/

namespace Settings

variable {source : Source} {s : Settings}

/-- A blank text is given under a name. -/
def GivesBlank (source : Source) (name : String) : Prop :=
  ∃ text, source.lookup name = some (.str text) ∧ Text.strip text = ""

/-- A text field with a default that is not blank is blank if and only if a blank text is given. -/
lemma givesBlank_iff {name default text : String} (hdefault : Text.strip default ≠ "")
    (h : (given source name (some (.str default))).bind Validation.text = .ok text) :
    GivesBlank source name ↔ Text.strip text = "" := by
  obtain ⟨v, hgiven, hread⟩ := Except.exists_of_bind_eq_ok h
  have hv : v = .str text := by
    unfold Validation.text at hread
    split at hread
    · cases hread
      rfl
    · cases hread
  subst hv
  unfold GivesBlank
  unfold given at hgiven
  split at hgiven
  · rename_i w hlookup
    cases hgiven
    simp [hlookup]
  · rename_i hlookup
    cases hgiven
    simp [hlookup, hdefault]

/-- Accepted settings configure a client whose arguments are in range. -/
lemma fit_github (h : ofSource source = .ok s) : s.github.Fit := by
  have hdraft := draft_of_ofSource h
  obtain ⟨_, _, htoken⟩ := Except.exists_of_bind_eq_ok (congrArg Draft.token hdraft)
  obtain ⟨_, _, howner⟩ := Except.exists_of_bind_eq_ok (congrArg Draft.owner hdraft)
  obtain ⟨_, _, hrepository⟩ := Except.exists_of_bind_eq_ok (congrArg Draft.repository hdraft)
  obtain ⟨_, _, hworkflow⟩ := Except.exists_of_bind_eq_ok (congrArg Draft.workflow hdraft)
  obtain ⟨_, _, href⟩ := Except.exists_of_bind_eq_ok (congrArg Draft.ref hdraft)
  obtain ⟨_, _, htimeout⟩ := Except.exists_of_bind_eq_ok (congrArg Draft.requestTimeout hdraft)
  obtain ⟨_, _, hattempts⟩ := Except.exists_of_bind_eq_ok (congrArg Draft.lookupAttempts hdraft)
  obtain ⟨_, _, hinterval⟩ := Except.exists_of_bind_eq_ok (congrArg Draft.lookupInterval hdraft)
  exact {
    token := inked_of_inked htoken
    owner := inked_of_inked howner
    repository := inked_of_inked hrepository
    workflow := inked_of_inked hworkflow
    ref := inked_of_inked href
    requestTimeout :=
      decide_eq_false (Decimal.not_le_zero ((positive_eq_ok_iff ..).mp htimeout).2)
    lookupAttempts := ((integerFrom_eq_ok_iff ..).mp hattempts).2.1
    lookupInterval :=
      decide_eq_false (Decimal.not_lt_zero ((notNegative_eq_ok_iff ..).mp hinterval).2) }

/-- The database refuses the address of accepted settings as blank if a blank one is given. -/
lemma connect_databaseUrl_iff (h : ofSource source = .ok s) :
    Database.connect s.databaseUrl = .error .blank ↔ GivesBlank source "database_url" := by
  have hdefault : Text.strip defaultDatabaseUrl ≠ "" := by decide +kernel
  have hread := congrArg Draft.databaseUrl (draft_of_ofSource h)
  rw [Database.connect_eq_blank_iff, givesBlank_iff hdefault hread]

/-- The client refuses accepted settings if a blank base address is given, and for nothing else. -/
lemma checkArguments_github_iff (h : ofSource source = .ok s) {reason : Refusal} :
    s.github.checkArguments = .error reason ↔
      reason = .blank "base_url" ∧ GivesBlank source "github_api_base_url" := by
  have hdefault : Text.strip "https://api.github.com" ≠ "" := by decide +kernel
  have hread := congrArg Draft.apiBaseUrl (draft_of_ofSource h)
  rw [(fit_github h).checkArguments_eq_error_iff, givesBlank_iff hdefault hread]
  rfl

end Settings

/-! ### Wiring -/

section Wiring

variable {environment : List (String × String)} {file : Option String} {settings : Settings}
  {failure : Failure}

/-- The wiring fails with the database, or after it with the client. -/
lemma Wiring.ofSettings_eq_error_iff :
    ofSettings settings = .error failure ↔
      (∃ cause, Database.connect settings.databaseUrl = .error cause ∧ failure = .database cause) ∨
        ∃ url, Database.connect settings.databaseUrl = .ok url ∧
          settings.github.check = .error failure := by
  unfold ofSettings
  cases Database.connect settings.databaseUrl with
  | error cause => simp [Except.mapError, bind, Except.bind, eq_comm]
  | ok url =>
    cases settings.github.check with
    | error refused => simp [Except.mapError, bind, Except.bind]
    | ok account => simp [Except.mapError, bind, Except.bind, pure, Except.pure]

/-- The wiring fails for a blank address of the database if opening the database does. -/
lemma Wiring.ofSettings_eq_blank_iff :
    ofSettings settings = .error (.database .blank) ↔
      Database.connect settings.databaseUrl = .error .blank := by
  rw [ofSettings_eq_error_iff]
  constructor
  · rintro (⟨cause, hconnect, hsame⟩ | ⟨url, _, hcheck⟩)
    · cases hsame
      exact hconnect
    · rcases Github.Config.cases_of_check hcheck with ⟨_, _, hrefused⟩ | ⟨_, _, hforeign⟩
      · cases hrefused
      · cases hforeign
  · intro h
    exact .inl ⟨_, h, rfl⟩

/-- The wiring refuses an argument if the database can be opened and the client refuses it. -/
lemma Wiring.ofSettings_eq_refused_iff {reason : Refusal} :
    ofSettings settings = .error (.refused reason) ↔
      (∃ url, Database.connect settings.databaseUrl = .ok url) ∧
        settings.github.checkArguments = .error reason := by
  rw [ofSettings_eq_error_iff, ← Github.Config.check_eq_refused_iff]
  constructor
  · rintro (⟨cause, _, hsame⟩ | ⟨url, hconnect, hcheck⟩)
    · cases hsame
    · exact ⟨⟨url, hconnect⟩, hcheck⟩
  · rintro ⟨⟨url, hconnect⟩, hcheck⟩
    exact .inr ⟨url, hconnect, hcheck⟩

/-- Settings that were loaded were accepted. -/
lemma Settings.ofSource_of_load (h : load environment file = .ok settings) :
    ofSource (.ofEnvironment environment file) = .ok settings :=
  Except.eq_ok_of_mapError h

/-- Of all checks of the parts that loaded settings determine, only those for a blank address can
fail.  The database fails its check exactly if a blank address of it is given, the client exactly if
a blank base address is given, and the wiring, which checks the database first, with them. -/
theorem load_wiring (h : Settings.load environment file = .ok settings) :
    let source := Settings.Source.ofEnvironment environment file
    (Database.connect settings.databaseUrl = .error .blank ↔
      Settings.GivesBlank source "database_url") ∧
    (∀ reason, settings.github.checkArguments = .error reason ↔
      reason = .blank "base_url" ∧ Settings.GivesBlank source "github_api_base_url") ∧
    (Wiring.ofSettings settings = .error (.database .blank) ↔
      Settings.GivesBlank source "database_url") ∧
    ∀ reason, Wiring.ofSettings settings = .error (.refused reason) ↔
      (∃ url, Database.connect settings.databaseUrl = .ok url) ∧
        reason = .blank "base_url" ∧ Settings.GivesBlank source "github_api_base_url" := by
  intro source
  have haccepted := Settings.ofSource_of_load h
  have hdatabase := Settings.connect_databaseUrl_iff haccepted
  have hclient := fun reason => @Settings.checkArguments_github_iff _ _ haccepted reason
  refine ⟨hdatabase, hclient, ?_, fun reason => ?_⟩
  · rw [Wiring.ofSettings_eq_blank_iff, hdatabase]
  · rw [Wiring.ofSettings_eq_refused_iff, hclient]

/-- The variables that have no default; the token has blank characters around it. -/
def requiredVariables : List (String × String) :=
  [("GITHUB_TOKEN", " token "), ("GITHUB_REPOSITORY_OWNER", "acme"),
    ("GITHUB_REPOSITORY_NAME", "infra")]

/-- Settings with nothing but these variables are loaded and pass every check. -/
theorem requiredVariables_wiring : ∃ settings,
    Settings.load requiredVariables none = .ok settings ∧
      Wiring.ofSettings settings ≠ .error (.database .blank) ∧
      ∀ reason, Wiring.ofSettings settings ≠ .error (.refused reason) := by
  have hloads : (Settings.load requiredVariables none).toOption.isSome = true := by decide +kernel
  cases hload : Settings.load requiredVariables none with
  | error cause =>
    rw [hload] at hloads
    cases hloads
  | ok settings =>
    obtain ⟨_, _, hdatabase, hclient⟩ := load_wiring hload
    have hnone : ∀ name ∈ ["database_url", "github_api_base_url"],
        (Settings.Source.ofEnvironment requiredVariables none).lookup name = none := by
      decide +kernel
    have hnever : ∀ name ∈ ["database_url", "github_api_base_url"],
        ¬ Settings.GivesBlank (.ofEnvironment requiredVariables none) name := by
      rintro name hname ⟨text, hlookup, _⟩
      rw [hnone name hname] at hlookup
      cases hlookup
    refine ⟨settings, rfl, fun h => ?_, fun reason h => ?_⟩
    · exact hnever _ (by decide) (hdatabase.mp h)
    · exact hnever _ (by decide) ((hclient reason).mp h).2.2

/-- The failure of the wiring under the settings of an environment, if they are loaded. -/
def unwired (environment : List (String × String)) : Option Failure := do
  let settings ← (Settings.load environment none).toOption
  match Wiring.ofSettings settings with
  | .error failure => some failure
  | .ok _ => none

/-- Loaded settings whose wiring fails. -/
lemma exists_of_unwired (h : unwired environment = some failure) : ∃ settings,
    Settings.load environment none = .ok settings ∧
      Wiring.ofSettings settings = .error failure := by
  unfold unwired at h
  cases hload : Settings.load environment none with
  | error cause =>
    rw [hload] at h
    cases h
  | ok settings =>
    rw [hload] at h
    cases hwiring : Wiring.ofSettings settings with
    | error failure' =>
      simp only [Except.toOption, Option.bind_eq_bind, Option.bind_some, hwiring] at h
      exact ⟨settings, rfl, hwiring.trans (congrArg _ (Option.some.inj h))⟩
    | ok wiring =>
      simp only [Except.toOption, Option.bind_eq_bind, Option.bind_some, hwiring] at h
      cases h

/-- Blank addresses are loaded, and their wiring fails with the refusal of a value. -/
theorem blankAddresses_unwired :
    (∃ settings, Settings.load (("DATABASE_URL", " ") :: requiredVariables) none = .ok settings ∧
      Wiring.ofSettings settings = .error (.database .blank)) ∧
    (∃ settings,
      Settings.load (("DATABASE_URL", "sqlite://") :: ("GITHUB_API_BASE_URL", " ") ::
        requiredVariables) none = .ok settings ∧
      Wiring.ofSettings settings = .error (.refused (.blank "base_url"))) ∧
    (Failure.database .blank).line = "ValueError: database_url must not be blank" ∧
    (Failure.refused (.blank "base_url")).line = "ValueError: base_url must not be blank" := by
  refine ⟨exists_of_unwired ?_, exists_of_unwired ?_, rfl, rfl⟩
  · decide +kernel
  · decide +kernel

end Wiring

end Teardown
