import Mathlib.Data.List.Nodup
import Mathlib.Tactic.Lemma
import Teardown.Failure
import Teardown.Proofs.Decimal.Bits
import Teardown.Proofs.Json.Image
import Teardown.Proofs.Settings.Accepted

/-!
# Which texts are accepted as settings

All settings are given here by texts, as the variables of an environment, or they are not given.
`Acceptable` are the rules for such texts: one for each setting, and one for the longest wait and
the pause together, in which a setting that is not given counts by its default.

Loading is followed field by field.  `Carries` says which value a setting takes from its text, and
`Lawful` which values are allowed; settings are loaded if and only if they carry the texts and are
lawful (`ofSource_eq_ok_iff`).  `load_acceptance` says that there are such settings exactly for
acceptable texts.
-/

namespace Teardown

namespace Settings

/-! ### Texts from an environment -/

/-- The texts that are given for settings, by their names. -/
abbrev Texts := String → Option String

/-- An environment assigns texts to settings: the text of a setting stands under its name in
capitals, and under no other form of the name.  There may be other variables. -/
def Assigns (environment : List (String × String)) (texts : Texts) : Prop :=
  ∀ name ∈ names, (environment.filter fun v => Text.lowerCase v.1 = name) =
    (texts name).toList.map (Text.capitalize name, ·)

/-- Just the variables of an assignment. -/
def assigned (texts : Texts) : List (String × String) :=
  names.flatMap fun name => (texts name).toList.map (Text.capitalize name, ·)

/-- A list without repetitions of which one element only gives anything. -/
lemma flatMap_eq_of_mem {α β : Type} {f : α → List β} {a : α} {l : List α} (hnodup : l.Nodup)
    (ha : a ∈ l) (hother : ∀ b ∈ l, b ≠ a → f b = []) : l.flatMap f = f a := by
  induction l with
  | nil => cases ha
  | cons b l ih =>
    obtain ⟨hb, hnodup⟩ := List.nodup_cons.mp hnodup
    rw [List.flatMap_cons]
    rcases List.mem_cons.mp ha with rfl | ha
    · have hrest : l.flatMap f = [] := List.flatMap_eq_nil_iff.mpr fun c hc =>
        hother c (List.mem_cons_of_mem _ hc) fun h => hb (h ▸ hc)
      rw [hrest, List.append_nil]
    · rw [hother b List.mem_cons_self fun h => hb (h ▸ ha), List.nil_append]
      exact ih hnodup ha fun c hc => hother c (List.mem_cons_of_mem _ hc)

/-- Every assignment has an environment. -/
lemma assigns_assigned (texts : Texts) : Assigns (assigned texts) texts := by
  have hlower : ∀ name ∈ names, Text.lowerCase (Text.capitalize name) = name := by
    decide +kernel
  have hnodup : names.Nodup := by
    decide +kernel
  intro name hname
  -- The variables of the other settings are not taken.
  have hother : ∀ other ∈ names, other ≠ name →
      ((texts other).toList.map (Text.capitalize other, ·)).filter
        (fun v => Text.lowerCase v.1 = name) = [] := by
    intro other hmem hne
    refine List.filter_eq_nil_iff.mpr fun v hv => ?_
    obtain ⟨_, _, rfl⟩ := List.mem_map.mp hv
    rw [hlower other hmem]
    exact fun h => hne (of_decide_eq_true h)
  have hself : ((texts name).toList.map (Text.capitalize name, ·)).filter
      (fun v => Text.lowerCase v.1 = name) = (texts name).toList.map (Text.capitalize name, ·) := by
    refine List.filter_eq_self.mpr fun v hv => ?_
    obtain ⟨_, _, rfl⟩ := List.mem_map.mp hv
    exact decide_eq_true (hlower name hname)
  unfold assigned
  rw [List.filter_flatMap, flatMap_eq_of_mem hnodup hname hother, hself]

/-- Among variables whose names are the same in small letters, the last one counts. -/
lemma lookup_normalize (given : List (String × Json)) (name : String) :
    (Source.normalize given).lookup name =
      (given.filter fun v => Text.lowerCase v.1 = name).getLast?.map Prod.snd := by
  induction given using List.reverseRecOn with
  | nil => rfl
  | append_singleton earlier last ih =>
    have hlast : Source.normalize (earlier ++ [last]) =
        Json.setMember (Text.lowerCase last.1) last.2 (Source.normalize earlier) := by
      unfold Source.normalize
      rw [List.foldl_append]
      rfl
    rw [hlast, Json.lookup_setMember, List.filter_append]
    by_cases hname : name = Text.lowerCase last.1
    · simp [hname]
    · simp [hname, Ne.symm hname, ih]

/-- A setting is looked up as its text. -/
lemma lookup_of_assigns {environment : List (String × String)} {texts : Texts}
    (h : Assigns environment texts) {name : String} (hname : name ∈ names) :
    (Source.ofEnvironment environment none).lookup name = (texts name).map .str := by
  have hown : Source.ofEnvironment environment none =
      Source.normalize (environment.map fun v => (v.1, .str v.2)) := List.append_nil _
  have hfilter : (environment.map fun v => (v.1, Json.str v.2)).filter
      (fun v => Text.lowerCase v.1 = name) =
      ((texts name).toList.map (Text.capitalize name, ·)).map fun v => (v.1, .str v.2) := by
    rw [List.filter_map, ← h name hname]
    rfl
  rw [hown, lookup_normalize, hfilter]
  cases texts name <;> rfl

/-! ### Values from texts -/

/-- A setting with a default has the value that its text stands for, or the default. -/
def Means {α : Type} (parse : String → Except Issue α) (default : α) (text : Option String)
    (value : α) : Prop :=
  match text with
  | some text => parse text = .ok value
  | none => value = default

/-- A text, if there is one, stands for a value that is allowed. -/
def Parses {α : Type} (parse : String → Except Issue α) (allowed : α → Prop)
    (text : Option String) : Prop :=
  ∀ t ∈ text, ∃ value, parse t = .ok value ∧ allowed value

section Values

variable {α : Type} {parse : String → Except Issue α} {default value : α} {allowed : α → Prop}
variable {text : Option String}

/-- A setting means one value only. -/
lemma Means.unique {other : α} (h : Means parse default text value)
    (h' : Means parse default text other) : other = value := by
  cases text with
  | none => exact h'.trans h.symm
  | some t => exact Except.ok.inj (h'.symm.trans h)

/-- A text that means an allowed value stands for one. -/
lemma Means.parses (h : Means parse default text value) (hallowed : allowed value) :
    Parses parse allowed text := by
  rintro t ⟨rfl⟩
  exact ⟨value, h, hallowed⟩

/-- A text that stands for an allowed value means one, if the default is allowed. -/
lemma Parses.exists_means (h : Parses parse allowed text) (default : α)
    (hdefault : allowed default) : ∃ value, Means parse default text value ∧ allowed value := by
  cases text with
  | none => exact ⟨default, rfl, hdefault⟩
  | some t => exact h t rfl

/-- A text that stands for itself up to a change. -/
lemma means_change_iff {change : String → String} {default value : String} :
    Means (fun t => .ok (change t)) default text value ↔
      value = (text.map change).getD default := by
  cases text with
  | none => rfl
  | some t => exact Except.ok.injEq .. ▸ eq_comm

end Values

section Changed

variable {change : String → String} {default value : String} {text : Option String}

/-- A text is allowed if its value is. -/
lemma allowed_of_eq_getD (allowed : String → Prop) (h : value = (text.map change).getD default)
    (hallowed : allowed value) : ∀ t ∈ text, allowed (change t) := by
  rintro t ⟨rfl⟩
  have hvalue : value = change t := h
  rw [← hvalue]
  exact hallowed

/-- A value is allowed if its text is, and the default. -/
lemma allowed_getD (allowed : String → Prop) (h : ∀ t ∈ text, allowed (change t))
    (hdefault : allowed default) : allowed ((text.map change).getD default) := by
  cases text with
  | none => exact hdefault
  | some t => exact h t rfl

/-- A stripped text that is not blank. -/
lemma exists_inked (h : text.map Text.strip = some value) (hink : value ≠ "") :
    ∃ t ∈ text, Text.strip t ≠ "" := by
  obtain ⟨t, ht, rfl⟩ := Option.map_eq_some_iff.mp h
  exact ⟨t, ht, hink⟩

end Changed

/-! ### Reading single settings -/

/-- A source gives settings their texts, and gives no other value. -/
def Gives (source : Source) (texts : Texts) : Prop :=
  ∀ name ∈ names, source.lookup name = (texts name).map .str

section Reading

variable {source : Source} {texts : Texts} (h : Gives source texts) (name : String)

include h

/-- A setting with a default is read as its text or its default is decoded and allowed. -/
lemma Gives.read_iff {α : Type} {check : Json → Except Issue α} {fallback : Json}
    {default value : α} (decode : Json → Except Issue α) (allowed : α → Prop)
    (parse : String → Except Issue α)
    (hcheck : ∀ v, check v = .ok value ↔ decode v = .ok value ∧ allowed value)
    (htext : ∀ t, decode (.str t) = parse t) (hdefault : decode fallback = .ok default)
    (hname : name ∈ names) :
    (given source name (some fallback)).bind check = .ok value ↔
      Means parse default (texts name) value ∧ allowed value := by
  unfold given
  rw [h name hname]
  cases texts name with
  | none =>
    refine (hcheck fallback).trans (and_congr_left' ?_)
    rw [hdefault, Except.ok.injEq]
    exact eq_comm
  | some t =>
    refine (hcheck (.str t)).trans (and_congr_left' ?_)
    rw [htext]
    rfl

/-- A text that is taken as it is. -/
lemma Gives.read_text_iff {default value : String} (hname : name ∈ names := by decide) :
    (given source name (some (.str default))).bind Validation.text = .ok value ↔
      value = (texts name).getD default := by
  unfold given
  rw [h name hname]
  cases texts name <;> exact (iff_of_eq (Except.ok.injEq ..)).trans eq_comm

/-- A level, which is stripped and put in capitals. -/
lemma Gives.read_level_iff {value : String} (default : String)
    (hdefault : Text.capitalize (Text.strip default) = default)
    (hname : name ∈ names := by decide) :
    (given source name (some (.str default))).bind level = .ok value ↔
      value = ((texts name).map fun text => Text.capitalize (Text.strip text)).getD default ∧
        value ∈ levelNames := by
  rw [← means_change_iff]
  exact h.read_iff name (fun v => (Validation.text v).map fun t => Text.capitalize (Text.strip t))
    (· ∈ levelNames) _ (level_eq_ok_iff · value) (fun _ => rfl) (congrArg Except.ok hdefault) hname

/-- A text that is stripped and must not be blank. -/
lemma Gives.read_inked_iff {value : String} (default : String)
    (hdefault : Text.strip default = default) (hname : name ∈ names := by decide) :
    (given source name (some (.str default))).bind inked = .ok value ↔
      value = ((texts name).map Text.strip).getD default ∧ value ≠ "" := by
  rw [← means_change_iff]
  exact h.read_iff name (fun v => (Validation.text v).map Text.strip) (· ≠ "") _
    (inked_eq_ok_iff · value) (fun _ => rfl) (congrArg Except.ok hdefault) hname

/-- A text without a default that is stripped and must not be blank. -/
lemma Gives.read_required_iff {value : String} (hname : name ∈ names := by decide) :
    (given source name none).bind inked = .ok value ↔
      (texts name).map Text.strip = some value ∧ value ≠ "" := by
  unfold given
  rw [h name hname]
  cases texts name with
  | none => exact iff_of_false (fun h => by cases h) fun h => by cases h.1
  | some t =>
    refine (inked_eq_ok_iff (.str t) value).trans (and_congr_left' ?_)
    exact (iff_of_eq (Except.ok.injEq ..)).trans (iff_of_eq (Option.some.injEq ..)).symm

/-- An integer between bounds. -/
lemma Gives.read_integer_iff {low : Nat} {high : Option Nat} {default value : Int}
    (hname : name ∈ names := by decide) :
    (given source name (some (.int default))).bind (integerFrom low high) = .ok value ↔
      Means Validation.integerOfText default (texts name) value ∧
        low ≤ value ∧ ∀ bound ∈ high, value ≤ (bound : Int) :=
  h.read_iff name Validation.integer (fun n : Int => low ≤ n ∧ ∀ bound ∈ high, n ≤ (bound : Int))
    Validation.integerOfText (integerFrom_eq_ok_iff · low high value) (fun _ => rfl) rfl hname

/-- A float above zero. -/
lemma Gives.read_positive_iff {default value : Float} (hname : name ∈ names := by decide) :
    (given source name (some (.float default))).bind positive = .ok value ↔
      Means Validation.floatOfText default (texts name) value ∧ 0.0 < value :=
  h.read_iff name Validation.float (0.0 < ·) Validation.floatOfText (positive_eq_ok_iff · value)
    (fun _ => rfl) rfl hname

/-- A float that is not below zero. -/
lemma Gives.read_notNegative_iff {default value : Float} (hname : name ∈ names := by decide) :
    (given source name (some (.float default))).bind notNegative = .ok value ↔
      Means Validation.floatOfText default (texts name) value ∧ 0.0 ≤ value :=
  h.read_iff name Validation.float (0.0 ≤ ·) Validation.floatOfText
    (notNegative_eq_ok_iff · value) (fun _ => rfl) rfl hname

/-- A pause that is not longer than the longest wait. -/
lemma Gives.read_pause_iff {longest default value : Float} (hlongest : 0.0 < longest)
    (hname : name ∈ names := by decide) :
    (given source name (some (.float default))).bind (pauseWithin (.ok longest)) = .ok value ↔
      Means Validation.floatOfText default (texts name) value ∧ 0.0 < value ∧ value ≤ longest := by
  refine (h.read_iff name Validation.float (fun x => 0.0 < x ∧ ¬ longest < x)
    Validation.floatOfText (pauseWithin_eq_ok_iff · longest value) (fun _ => rfl) rfl hname).trans
    (and_congr_right' (and_congr_right fun hvalue => ?_))
  exact (Decimal.le_iff_not_lt hvalue hlongest).symm

end Reading

/-! ### Settings from texts -/

/-- The values that settings have from their texts: texts that must not be blank are stripped, and
the level is stripped and put in capitals. -/
structure Carries (texts : Texts) (s : Settings) : Prop where
  environmentName : s.environmentName = (texts "environment_name").getD "development"
  host : s.host = (texts "application_host").getD "0.0.0.0"
  port : Means Validation.integerOfText 8000 (texts "application_port") s.port
  databaseUrl : s.databaseUrl = (texts "database_url").getD defaultDatabaseUrl
  logLevel : s.logLevel =
    ((texts "log_level").map fun text => Text.capitalize (Text.strip text)).getD "INFO"
  apiBaseUrl : s.apiBaseUrl = (texts "github_api_base_url").getD "https://api.github.com"
  token : (texts "github_token").map Text.strip = some s.token
  owner : (texts "github_repository_owner").map Text.strip = some s.owner
  repository : (texts "github_repository_name").map Text.strip = some s.repository
  workflow : s.workflow =
    ((texts "github_cleanup_workflow_file").map Text.strip).getD "cleanup.yml"
  ref : s.ref = ((texts "github_workflow_ref").map Text.strip).getD "main"
  requestTimeout :
    Means Validation.floatOfText 30.0 (texts "github_request_timeout_seconds") s.requestTimeout
  lookupAttempts :
    Means Validation.integerOfText 5 (texts "github_run_lookup_attempts") s.lookupAttempts
  lookupInterval :
    Means Validation.floatOfText 2.0 (texts "github_run_lookup_interval_seconds") s.lookupInterval
  stopTimeout :
    Means Validation.floatOfText 600.0 (texts "stopping_workflow_timeout_seconds") s.stopTimeout
  stopInterval : Means Validation.floatOfText 5.0
    (texts "stopping_workflow_check_interval_seconds") s.stopInterval

/-- The values that settings may have. -/
structure Lawful (s : Settings) : Prop where
  port : 1 ≤ s.port ∧ s.port ≤ 65535
  logLevel : s.logLevel ∈ levelNames
  token : s.token ≠ ""
  owner : s.owner ≠ ""
  repository : s.repository ≠ ""
  workflow : s.workflow ≠ ""
  ref : s.ref ≠ ""
  requestTimeout : 0.0 < s.requestTimeout
  lookupAttempts : 1 ≤ s.lookupAttempts
  lookupInterval : 0.0 ≤ s.lookupInterval
  stopTimeout : 0.0 < s.stopTimeout
  stopInterval : 0.0 < s.stopInterval ∧ s.stopInterval ≤ s.stopTimeout

section Loading

variable {source : Source} {texts : Texts} {s : Settings}

/-- Settings are accepted if they carry the given texts and are lawful. -/
lemma ofSource_eq_ok_iff (h : Gives source texts) :
    ofSource source = .ok s ↔ Carries texts s ∧ Lawful s := by
  have hdraft : ofSource source = .ok s ↔ Draft.ofSource source = s.draft := by
    refine ⟨draft_of_ofSource, fun hsame => ?_⟩
    unfold ofSource
    rw [hsame]
    rfl
  rw [hdraft]
  unfold Draft.ofSource draft defaultStopTimeout
  dsimp only
  rw [Draft.mk.injEq, h.read_text_iff "environment_name", h.read_text_iff "application_host",
    h.read_integer_iff "application_port", h.read_text_iff "database_url",
    h.read_level_iff "log_level" "INFO" (by decide +kernel),
    h.read_text_iff "github_api_base_url", h.read_required_iff "github_token",
    h.read_required_iff "github_repository_owner", h.read_required_iff "github_repository_name",
    h.read_inked_iff "github_cleanup_workflow_file" "cleanup.yml" (by decide +kernel),
    h.read_inked_iff "github_workflow_ref" "main" (by decide +kernel),
    h.read_positive_iff "github_request_timeout_seconds",
    h.read_integer_iff "github_run_lookup_attempts",
    h.read_notNegative_iff "github_run_lookup_interval_seconds"]
  constructor
  · rintro ⟨henvironment, hhost, ⟨hport, hports⟩, hdatabase, ⟨hlevel, hlevels⟩, hbase,
      ⟨htoken, hinkToken⟩, ⟨howner, hinkOwner⟩, ⟨hrepository, hinkRepository⟩,
      ⟨hworkflow, hinkWorkflow⟩, ⟨href, hinkRef⟩, ⟨hrequest, hpositive⟩, ⟨hattempts, hsome⟩,
      ⟨hlookup, hnotNegative⟩, htimeout, hinterval⟩
    rw [htimeout] at hinterval
    obtain ⟨htimeout, hlongest⟩ := (h.read_positive_iff _).mp htimeout
    obtain ⟨hinterval, hspans⟩ := (h.read_pause_iff _ hlongest).mp hinterval
    exact ⟨⟨henvironment, hhost, hport, hdatabase, hlevel, hbase, htoken, howner, hrepository,
        hworkflow, href, hrequest, hattempts, hlookup, htimeout, hinterval⟩,
      ⟨by simpa using hports, hlevels, hinkToken, hinkOwner, hinkRepository, hinkWorkflow, hinkRef,
        hpositive, by simpa using hsome, hnotNegative, hlongest, hspans⟩⟩
  · rintro ⟨hcarries, hlawful⟩
    have htimeout := (h.read_positive_iff "stopping_workflow_timeout_seconds").mpr
      ⟨hcarries.stopTimeout, hlawful.stopTimeout⟩
    have hinterval := (h.read_pause_iff "stopping_workflow_check_interval_seconds"
      hlawful.stopTimeout).mpr ⟨hcarries.stopInterval, hlawful.stopInterval⟩
    rw [htimeout]
    exact ⟨hcarries.environmentName, hcarries.host,
      ⟨hcarries.port, by simpa using hlawful.port⟩, hcarries.databaseUrl,
      ⟨hcarries.logLevel, hlawful.logLevel⟩, hcarries.apiBaseUrl,
      ⟨hcarries.token, hlawful.token⟩, ⟨hcarries.owner, hlawful.owner⟩,
      ⟨hcarries.repository, hlawful.repository⟩, ⟨hcarries.workflow, hlawful.workflow⟩,
      ⟨hcarries.ref, hlawful.ref⟩, ⟨hcarries.requestTimeout, hlawful.requestTimeout⟩,
      ⟨hcarries.lookupAttempts, by simpa using hlawful.lookupAttempts⟩,
      ⟨hcarries.lookupInterval, hlawful.lookupInterval⟩, rfl, hinterval⟩

end Loading

/-! ### Acceptable texts -/

/-- The rules for given texts.  Three settings must have a text that is not blank, and two others
must not have a blank one; the level is one of five, in any case; each number can be read and is
within its bounds; and the pause is not longer than the longest wait, where a setting without a text
counts by its default. -/
structure Acceptable (texts : Texts) : Prop where
  port : Parses Validation.integerOfText (fun n => 1 ≤ n ∧ n ≤ 65535) (texts "application_port")
  logLevel : ∀ text ∈ texts "log_level", Text.capitalize (Text.strip text) ∈ levelNames
  token : ∃ text ∈ texts "github_token", Text.strip text ≠ ""
  owner : ∃ text ∈ texts "github_repository_owner", Text.strip text ≠ ""
  repository : ∃ text ∈ texts "github_repository_name", Text.strip text ≠ ""
  workflow : ∀ text ∈ texts "github_cleanup_workflow_file", Text.strip text ≠ ""
  ref : ∀ text ∈ texts "github_workflow_ref", Text.strip text ≠ ""
  requestTimeout :
    Parses Validation.floatOfText (0.0 < ·) (texts "github_request_timeout_seconds")
  lookupAttempts : Parses Validation.integerOfText (1 ≤ ·) (texts "github_run_lookup_attempts")
  lookupInterval :
    Parses Validation.floatOfText (0.0 ≤ ·) (texts "github_run_lookup_interval_seconds")
  stopTimeout :
    Parses Validation.floatOfText (0.0 < ·) (texts "stopping_workflow_timeout_seconds")
  stopInterval :
    Parses Validation.floatOfText (0.0 < ·) (texts "stopping_workflow_check_interval_seconds")
  pause_le : ∀ longest pause,
    Means Validation.floatOfText 600.0 (texts "stopping_workflow_timeout_seconds") longest →
    Means Validation.floatOfText 5.0 (texts "stopping_workflow_check_interval_seconds") pause →
    pause ≤ longest

section Acceptable

variable {texts : Texts}

/-- Lawful settings carry acceptable texts only. -/
lemma Carries.acceptable {s : Settings} (h : Carries texts s) (hlawful : Lawful s) :
    Acceptable texts where
  port := h.port.parses hlawful.port
  logLevel := allowed_of_eq_getD (· ∈ levelNames) h.logLevel hlawful.logLevel
  token := exists_inked h.token hlawful.token
  owner := exists_inked h.owner hlawful.owner
  repository := exists_inked h.repository hlawful.repository
  workflow := allowed_of_eq_getD (· ≠ "") h.workflow hlawful.workflow
  ref := allowed_of_eq_getD (· ≠ "") h.ref hlawful.ref
  requestTimeout := h.requestTimeout.parses hlawful.requestTimeout
  lookupAttempts := h.lookupAttempts.parses hlawful.lookupAttempts
  lookupInterval := h.lookupInterval.parses hlawful.lookupInterval
  stopTimeout := h.stopTimeout.parses hlawful.stopTimeout
  stopInterval := h.stopInterval.parses hlawful.stopInterval.1
  pause_le longest pause hlongest hpause := by
    rw [h.stopTimeout.unique hlongest, h.stopInterval.unique hpause]
    exact hlawful.stopInterval.2

/-- Acceptable texts are carried by lawful settings; here the defaults have to be lawful. -/
lemma Acceptable.exists_lawful (h : Acceptable texts) : ∃ s, Carries texts s ∧ Lawful s := by
  obtain ⟨port, hport, hports⟩ := h.port.exists_means 8000 (by decide)
  obtain ⟨request, hrequest, hrequests⟩ := h.requestTimeout.exists_means 30.0 (by decide +kernel)
  obtain ⟨attempts, hattempts, hsome⟩ := h.lookupAttempts.exists_means 5 (by decide)
  obtain ⟨lookup, hlookup, hlookups⟩ := h.lookupInterval.exists_means 2.0 (by decide +kernel)
  obtain ⟨longest, hlongest, hlongests⟩ := h.stopTimeout.exists_means 600.0 (by decide +kernel)
  obtain ⟨pause, hpause, hpauses⟩ := h.stopInterval.exists_means 5.0 (by decide +kernel)
  obtain ⟨token, htoken, hinkToken⟩ := h.token
  obtain ⟨owner, howner, hinkOwner⟩ := h.owner
  obtain ⟨repository, hrepository, hinkRepository⟩ := h.repository
  let s : Settings := {
    environmentName := (texts "environment_name").getD "development"
    host := (texts "application_host").getD "0.0.0.0"
    port
    databaseUrl := (texts "database_url").getD defaultDatabaseUrl
    logLevel :=
      ((texts "log_level").map fun text => Text.capitalize (Text.strip text)).getD "INFO"
    apiBaseUrl := (texts "github_api_base_url").getD "https://api.github.com"
    token := Text.strip token
    owner := Text.strip owner
    repository := Text.strip repository
    workflow := ((texts "github_cleanup_workflow_file").map Text.strip).getD "cleanup.yml"
    ref := ((texts "github_workflow_ref").map Text.strip).getD "main"
    requestTimeout := request
    lookupAttempts := attempts
    lookupInterval := lookup
    stopTimeout := longest
    stopInterval := pause }
  have hcarries : Carries texts s := {
    environmentName := rfl
    host := rfl
    port := hport
    databaseUrl := rfl
    logLevel := rfl
    apiBaseUrl := rfl
    token := Option.map_eq_some_iff.mpr ⟨token, htoken, rfl⟩
    owner := Option.map_eq_some_iff.mpr ⟨owner, howner, rfl⟩
    repository := Option.map_eq_some_iff.mpr ⟨repository, hrepository, rfl⟩
    workflow := rfl
    ref := rfl
    requestTimeout := hrequest
    lookupAttempts := hattempts
    lookupInterval := hlookup
    stopTimeout := hlongest
    stopInterval := hpause }
  exact ⟨s, hcarries, {
    port := hports
    logLevel := allowed_getD (· ∈ levelNames) h.logLevel (by decide)
    token := hinkToken
    owner := hinkOwner
    repository := hinkRepository
    workflow := allowed_getD (· ≠ "") h.workflow (by decide)
    ref := allowed_getD (· ≠ "") h.ref (by decide)
    requestTimeout := hrequests
    lookupAttempts := hsome
    lookupInterval := hlookups
    stopTimeout := hlongests
    stopInterval := ⟨hpauses, h.pause_le longest pause hlongest hpause⟩ }⟩

end Acceptable

/-! ### The theorem -/

/-- An environment that assigns texts to settings, without a file, is loaded if and only if the
texts are acceptable.  The settings then carry the texts and are lawful; otherwise loading fails
with a report. -/
theorem load_acceptance {environment : List (String × String)} {texts : Texts}
    (h : Assigns environment texts) :
    ((∃ s, load environment none = .ok s) ↔ Acceptable texts) ∧
    (∀ s, load environment none = .ok s → Carries texts s ∧ Lawful s) ∧
    (¬ Acceptable texts → ∃ report, load environment none = .error (.invalid report) ∧
      (Failure.settings (.invalid report)).kind = "SettingsLoadError") := by
  have hgives : Gives (.ofEnvironment environment none) texts := fun _ => lookup_of_assigns h
  have hload : ∀ s, load environment none = .ok s ↔ Carries texts s ∧ Lawful s := by
    intro s
    rw [← ofSource_eq_ok_iff hgives]
    unfold load
    cases ofSource (.ofEnvironment environment none) with
    | ok _ => exact iff_of_eq (Except.ok.injEq ..) |>.trans (iff_of_eq (Except.ok.injEq ..)).symm
    | error _ => exact iff_of_false (fun h => by cases h) fun h => by cases h
  have haccepts : (∃ s, load environment none = .ok s) ↔ Acceptable texts :=
    (exists_congr hload).trans
      ⟨fun ⟨_, hcarries, hlawful⟩ => hcarries.acceptable hlawful, Acceptable.exists_lawful⟩
  refine ⟨haccepts, fun s => (hload s).mp, fun hnot => ?_⟩
  cases hresult : ofSource (.ofEnvironment environment none) with
  | ok s => exact absurd (haccepts.mp ⟨s, by unfold load; rw [hresult]; rfl⟩) hnot
  | error report => exact ⟨report, by unfold load; rw [hresult]; rfl, rfl⟩

/-- Texts for the settings without a default, for the level and for the longest wait. -/
def waitingFor (timeout : String) : Texts := fun name =>
  [("github_token", " token "), ("github_repository_owner", "acme"),
    ("github_repository_name", "infra"), ("log_level", " debug "),
    ("stopping_workflow_timeout_seconds", timeout)].lookup name

/-- A longest wait of five seconds leaves room for the pause, which is not given; one of four
seconds does not. -/
theorem waitingFor_acceptance :
    (∃ s, load (assigned (waitingFor "5")) none = .ok s ∧ Acceptable (waitingFor "5") ∧
      s.token = "token" ∧ s.logLevel = "DEBUG" ∧ s.stopInterval ≤ s.stopTimeout) ∧
    ∃ report, load (assigned (waitingFor "4")) none = .error (.invalid report) := by
  constructor
  · obtain ⟨haccepts, hcarries, _⟩ := load_acceptance (assigns_assigned (waitingFor "5"))
    have hloads : (load (assigned (waitingFor "5")) none).toOption.isSome = true := by
      decide +kernel
    cases hload : load (assigned (waitingFor "5")) none with
    | error cause =>
      rw [hload] at hloads
      cases hloads
    | ok s =>
      obtain ⟨hcarries, hlawful⟩ := hcarries s hload
      exact ⟨s, rfl, haccepts.mp ⟨s, hload⟩, (Option.some.inj hcarries.token).symm,
        hcarries.logLevel, hlawful.stopInterval.2⟩
  · have hfour : (Validation.floatOfText "4").toOption.any (· < 5.0) = true := by
      decide +kernel
    have hnot : ¬ Acceptable (waitingFor "4") := by
      intro h
      obtain ⟨longest, hlongest, hpos⟩ := h.stopTimeout "4" rfl
      have hlt : longest < 5.0 := by
        rw [hlongest] at hfour
        exact of_decide_eq_true hfour
      have hfive : (0.0 : Float) < 5.0 := by decide +kernel
      exact (Decimal.le_iff_not_lt hfive hpos).mp (h.pause_le longest 5.0 hlongest rfl) hlt
    obtain ⟨report, hreport, _⟩ :=
      (load_acceptance (assigns_assigned (waitingFor "4"))).2.2 hnot
    exact ⟨report, hreport⟩

end Settings

end Teardown
