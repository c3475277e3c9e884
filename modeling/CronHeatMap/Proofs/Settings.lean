import CronHeatMap.Console.Launch
import CronHeatMap.Proofs.Text.Numeral

/-!
# The layers of the settings

A setting comes from the first layer that has it: an option given at launch, the variable of the
profile, the plain variable, and at last the file, which has the usual value where it says nothing
(`resolve_by_priority`). The layers differ in what they count as missing. An option counts even if
it is empty, while a variable does not (`profiled?_eq_some_iff`). The time to wait has no option,
and is looked for in one variable only: if what that variable holds is no number, then the value of
the file is taken, and not that of another variable (`getD_givenTimeout?_eq_iff`).
-/

namespace CronHeatMap

/-! ### The environment -/

namespace Environment

variable {env env' : Environment} {name text : String}

/-- The variable is there, and it is not empty. -/
def Holds (env : Environment) (name text : String) : Prop :=
  env.lookup name = some text ∧ text ≠ ""

lemma value?_eq_some_iff : env.value? name = some text ↔ env.Holds name text := by
  rw [value?, Option.filter_eq_some_iff, decide_eq_true_eq, Holds]

lemma value?_eq_none_iff : env.value? name = none ↔ ∀ text, ¬ env.Holds name text := by
  simp only [Option.eq_none_iff_forall_ne_some, ne_eq, value?_eq_some_iff]

/-- The name of the profile, in upper case; empty for none. -/
def profile (env : Environment) : String :=
  Text.UpperCase.ofText ((env.lookup Settings.profileVariable).getD "")

variable {profile : String}

/-- The variable that belongs to a profile. -/
def ownName (profile name : String) : String := profile ++ "_" ++ name

/-- What the environment gives for a variable: what the variable of the profile holds, or else what
the plain one holds. -/
inductive Gives (env : Environment) (profile name : String) : String → Prop
  | own {text : String} (hprofile : profile ≠ "") (h : env.Holds (ownName profile name) text) :
      Gives env profile name text
  | plain {text : String} (hown : profile ≠ "" → ∀ own, ¬ env.Holds (ownName profile name) own)
      (h : env.Holds name text) : Gives env profile name text

/-- The variables that are looked at for a name, the one of the profile first. -/
def names (profile name : String) : List String :=
  if profile = "" then [name] else [ownName profile name, name]

lemma profiled?_empty (env : Environment) (name : String) :
    env.profiled? "" name = env.value? name :=
  rfl

lemma profiled?_of_ne (hprofile : profile ≠ "") (env : Environment) (name : String) :
    env.profiled? profile name = (env.value? (ownName profile name)).or (env.value? name) := by
  rw [profiled?, if_neg hprofile, ownName]
  exact Option.or_eq_orElse.symm

lemma profiled?_eq_some_iff :
    env.profiled? profile name = some text ↔ env.Gives profile name text := by
  by_cases hprofile : profile = ""
  · subst hprofile
    rw [profiled?_empty, value?_eq_some_iff]
    constructor
    · exact fun h => .plain (fun hne => absurd rfl hne) h
    · rintro (⟨hne, -⟩ | ⟨-, h⟩)
      · exact absurd rfl hne
      · exact h
  · rw [profiled?_of_ne hprofile, Option.or_eq_some_iff, value?_eq_none_iff, value?_eq_some_iff,
      value?_eq_some_iff]
    constructor
    · rintro (h | ⟨hown, h⟩)
      · exact .own hprofile h
      · exact .plain (fun _ => hown) h
    · rintro (⟨-, h⟩ | ⟨hown, h⟩)
      · exact Or.inl h
      · exact Or.inr ⟨hown hprofile, h⟩

lemma profiled?_eq_none_iff :
    env.profiled? profile name = none ↔ ∀ text, ¬ env.Gives profile name text := by
  simp only [Option.eq_none_iff_forall_ne_some, ne_eq, profiled?_eq_some_iff]

/-- No other variables than those of the name are looked at. -/
lemma profiled?_congr (h : ∀ n ∈ names profile name, env'.lookup n = env.lookup n) :
    env'.profiled? profile name = env.profiled? profile name := by
  by_cases hprofile : profile = ""
  · subst hprofile
    have hplain : env'.lookup name = env.lookup name := h name (by simp [names])
    rw [profiled?_empty, profiled?_empty, value?, value?, hplain]
  · have hown := h (ownName profile name) (by simp [names, hprofile])
    have hplain := h name (by simp [names, hprofile])
    rw [profiled?_of_ne hprofile, profiled?_of_ne hprofile]
    simp only [value?, hown, hplain]

end Environment

/-! ### The file -/

namespace SettingsFile

variable {entries : Toml.Entries} {file : Option String} {f : SettingsFile} {key : String}

/-- What the file says for a key: what is read from the entry, or else the usual value. -/
inductive Says {α : Type} (read? : Toml.Scalar → Option α) (entries : Toml.Entries) (key : String)
    (usual : α) : α → Prop
  | entry {s : Toml.Scalar} {value : α} (hentry : entries.get? key = some (.scalar s))
      (hread : read? s = some value) : Says read? entries key usual value
  | missing (hentry : entries.get? key = none) : Says read? entries key usual usual

lemma says_of_read {α : Type} {read? : Toml.Scalar → Option α} {value? : Option α}
    (h : entry? read? key entries = some value?) (usual : α) :
    Says read? entries key usual (value?.getD usual) := by
  unfold entry? at h
  split at h
  · next hentry =>
    cases h
    exact .missing hentry
  · next s hentry =>
    obtain ⟨value, hread, rfl⟩ := Option.map_eq_some_iff.1 h
    exact .entry hentry hread
  · cases h

/-- The settings of the file are those of the entries, or else the usual ones. -/
structure HasEntries (f : SettingsFile) (entries : Toml.Entries) : Prop where
  serviceUrl : Says text? entries serviceUrlKey "http://localhost:8080" f.serviceUrl
  timeZone : Says text? entries timeZoneKey "UTC" f.timeZone
  timeout : Says nat? entries timeoutKey 30 f.timeout

lemma hasEntries_of_ofEntries? (h : ofEntries? entries = some f) : f.HasEntries entries := by
  simp only [ofEntries?, Option.bind_eq_bind, Option.bind_eq_some_iff] at h
  obtain ⟨url, hurl, zone, hzone, time, htime, date, -, hfile⟩ := h
  cases hfile
  exact ⟨says_of_read hurl _, says_of_read hzone _, says_of_read htime _⟩

/-- A file that is not there says as much as an empty one. -/
lemma fileOf?_eq_parse? (file : Option String) :
    Launch.fileOf? file = parse? (file.getD "") := by
  cases file with
  | none => decide +kernel
  | some text => rfl

lemma exists_hasEntries (h : Launch.fileOf? file = some f) :
    ∃ entries, Toml.parse? (file.getD "") = some entries ∧ f.HasEntries entries := by
  rw [fileOf?_eq_parse?, parse?] at h
  obtain ⟨entries, hparse, hentries⟩ := Option.bind_eq_some_iff.1 h
  exact ⟨entries, hparse, hasEntries_of_ofEntries? hentries⟩

end SettingsFile

/-! ### The layers -/

namespace Settings

variable {env : Environment} {profile name : String}

/-- The layer a text is taken from: an option if it is given, or else the environment, or else the
file. -/
inductive Chosen (option? : Option String) (env : Environment) (profile name filed : String) :
    String → Prop
  | option {text : String} (hoption : option? = some text) :
      Chosen option? env profile name filed text
  | environment {text : String} (hoption : option? = none) (h : env.Gives profile name text) :
      Chosen option? env profile name filed text
  | file (hoption : option? = none) (h : ∀ text, ¬ env.Gives profile name text) :
      Chosen option? env profile name filed filed

lemma getD_profiled?_eq_iff (option? : Option String) (filed text : String) :
    option?.getD ((env.profiled? profile name).getD filed) = text ↔
      Chosen option? env profile name filed text := by
  rw [Option.getD_eq_iff, Option.getD_eq_iff, Environment.profiled?_eq_some_iff,
    Environment.profiled?_eq_none_iff]
  constructor
  · rintro (hoption | ⟨hoption, h | ⟨h, rfl⟩⟩)
    · exact .option hoption
    · exact .environment hoption h
    · exact .file hoption h
  · rintro (hoption | ⟨hoption, h⟩ | ⟨hoption, h⟩)
    · exact Or.inl hoption
    · exact Or.inr ⟨hoption, Or.inl h⟩
    · exact Or.inr ⟨hoption, Or.inr ⟨h, rfl⟩⟩

/-- The text is a number that fits into a word of 64 bits. -/
def IsTimeout (text : String) (n : Nat) : Prop := Text.IsNumeral text.toList n ∧ n < 2 ^ 64

/-- The time to wait that the environment gives. -/
def givenTimeout? (env : Environment) (profile : String) : Option Nat :=
  (env.profiled? profile timeoutVariable).bind fun text =>
    Text.readBelow? timeoutBound text.toList

lemma givenTimeout?_eq_some_iff {n : Nat} :
    givenTimeout? env profile = some n ↔
      ∃ text, env.Gives profile timeoutVariable text ∧ IsTimeout text n := by
  simp only [givenTimeout?, Option.bind_eq_some_iff, Environment.profiled?_eq_some_iff,
    Text.readBelow?_eq_some_iff]
  rfl

lemma givenTimeout?_eq_none_iff :
    givenTimeout? env profile = none ↔
      ∀ text, env.Gives profile timeoutVariable text → ∀ n, ¬ IsTimeout text n := by
  simp only [Option.eq_none_iff_forall_ne_some, ne_eq, givenTimeout?_eq_some_iff, not_exists,
    not_and]
  exact ⟨fun h text htext n => h n text htext, fun h n text htext => h text htext n⟩

/-- The layer the time to wait is taken from: the environment if it gives a number, or else the
file. -/
inductive ChosenTimeout (env : Environment) (profile : String) (filed : Nat) : Nat → Prop
  | environment {text : String} {n : Nat} (h : env.Gives profile timeoutVariable text)
      (htext : IsTimeout text n) : ChosenTimeout env profile filed n
  | file (h : ∀ text, env.Gives profile timeoutVariable text → ∀ n, ¬ IsTimeout text n) :
      ChosenTimeout env profile filed filed

lemma getD_givenTimeout?_eq_iff (filed n : Nat) :
    (givenTimeout? env profile).getD filed = n ↔ ChosenTimeout env profile filed n := by
  rw [Option.getD_eq_iff, givenTimeout?_eq_some_iff, givenTimeout?_eq_none_iff]
  constructor
  · rintro (⟨text, h, htext⟩ | ⟨h, rfl⟩)
    · exact .environment h htext
    · exact .file h
  · rintro (⟨h, htext⟩ | h)
    · exact Or.inl ⟨_, h, htext⟩
    · exact Or.inr ⟨h, rfl⟩

/-- The variables for a profile: the one that names it, and those of the settings. -/
def variablesFor (profile : String) : List String :=
  profileVariable ::
    [serviceUrlVariable, timeZoneVariable, timeoutVariable].flatMap (Environment.names profile)

end Settings

namespace SettingsFile

variable {env env' : Environment} {server timezone : Option String} {f : SettingsFile}

/-- The settings, with the layers of each of them. -/
lemma resolve_eq (f : SettingsFile) (env : Environment) (server timezone : Option String) :
    f.resolve env server timezone =
      { profile := env.profile
        serviceUrl := server.getD
          ((env.profiled? env.profile Settings.serviceUrlVariable).getD f.serviceUrl)
        timeZone := timezone.getD
          ((env.profiled? env.profile Settings.timeZoneVariable).getD f.timeZone)
        timeout := (Settings.givenTimeout? env env.profile).getD f.timeout } := by
  simp only [resolve, Settings.layered, settings, Settings.givenTimeout?, Environment.profile]

/-- Only the variables for the profile are looked at. -/
lemma resolve_congr (h : ∀ n ∈ Settings.variablesFor env.profile, env'.lookup n = env.lookup n) :
    f.resolve env' server timezone = f.resolve env server timezone := by
  have hprofile : env'.profile = env.profile := by
    rw [Environment.profile, Environment.profile, h _ List.mem_cons_self]
  have hprofiled {name : String} (hmem : name ∈ [Settings.serviceUrlVariable,
      Settings.timeZoneVariable, Settings.timeoutVariable]) :
      env'.profiled? env.profile name = env.profiled? env.profile name :=
    Environment.profiled?_congr fun n hn =>
      h n (List.mem_cons_of_mem _ (List.mem_flatMap.2 ⟨name, hmem, hn⟩))
  simp only [resolve_eq, Settings.givenTimeout?, hprofile, List.mem_cons, true_or, or_true,
    hprofiled]

/-- The address of the service and the zone are taken from the option if it is given, even if it is
empty, or else from the variable of the profile, or else from the plain variable, or else from the
file. The time to wait is taken from whichever of the variables comes first, if it is a number, and
otherwise from the file. The file has the usual value where it says nothing. No other variables than
those for the profile matter, and a request waits for at least one second. -/
theorem resolve_by_priority {file : Option String} (hfile : Launch.fileOf? file = some f)
    (env : Environment) (server timezone : Option String) :
    let r := f.resolve env server timezone
    (∃ entries, Toml.parse? (file.getD "") = some entries ∧ f.HasEntries entries) ∧
    r.profile = env.profile ∧
    (∀ url, r.serviceUrl = url ↔
      Settings.Chosen server env env.profile Settings.serviceUrlVariable f.serviceUrl url) ∧
    (∀ zone, r.timeZone = zone ↔
      Settings.Chosen timezone env env.profile Settings.timeZoneVariable f.timeZone zone) ∧
    (∀ n, r.timeout = n ↔ Settings.ChosenTimeout env env.profile f.timeout n) ∧
    (∀ env' : Environment,
      (∀ n ∈ Settings.variablesFor env.profile, env'.lookup n = env.lookup n) →
        f.resolve env' server timezone = r) ∧
    1 ≤ r.requestTimeout ∧ (1 ≤ r.timeout → r.requestTimeout = r.timeout) := by
  refine ⟨exists_hasEntries hfile, rfl, ?_, ?_, ?_, ?_, ?_, ?_⟩
  · intro url
    rw [resolve_eq]
    exact Settings.getD_profiled?_eq_iff server f.serviceUrl url
  · intro zone
    rw [resolve_eq]
    exact Settings.getD_profiled?_eq_iff timezone f.timeZone zone
  · intro n
    rw [resolve_eq]
    exact Settings.getD_givenTimeout?_eq_iff f.timeout n
  · exact fun env' h => resolve_congr h
  · exact Nat.le_max_right _ 1
  · exact fun h => Nat.max_eq_left h

/-- With a profile whose variables are empty or no number, an option that is empty, and a file that
says not to wait. -/
theorem resolve_by_priority_prod :
    let env : Environment :=
      [("CRONTENTION_PROFILE", "prod"), ("PROD_CRONTENTION_SERVICE_URL", ""),
       ("CRONTENTION_SERVICE_URL", "http://evaluator.internal:9000"),
       ("PROD_CRONTENTION_REQUEST_TIMEOUT_SECS", "soon"),
       ("CRONTENTION_REQUEST_TIMEOUT_SECS", "5")]
    ∃ f, Launch.fileOf? (some "request_timeout_secs = 0\n") = some f ∧
      let r := f.resolve env none (some "")
      r.profile = "PROD" ∧ r.serviceUrl = "http://evaluator.internal:9000" ∧ r.timeZone = "" ∧
        r.timeout = 0 ∧ 1 ≤ r.requestTimeout := by
  intro env
  have hfile : Launch.fileOf? (some "request_timeout_secs = 0\n") = some { timeout := 0 } := by
    decide +kernel
  have hprofile : env.profile = "PROD" := by decide +kernel
  obtain ⟨-, hname, hurl, hzone, htimeout, -, hwait, -⟩ :=
    resolve_by_priority hfile env none (some "")
  rw [hprofile] at hname hurl hzone htimeout
  refine ⟨_, hfile, hname, (hurl _).2 ?_, (hzone _).2 (.option rfl), (htimeout _).2 ?_, hwait⟩
  · refine .environment rfl (.plain ?_ ⟨by decide, by decide⟩)
    rintro - own ⟨hown, hne⟩
    have hempty : env.lookup "PROD_CRONTENTION_SERVICE_URL" = some "" := by decide
    exact hne (Option.some.inj (hown.symm.trans hempty))
  · refine .file fun text htext n hn => ?_
    have hsoon : env.lookup "PROD_CRONTENTION_REQUEST_TIMEOUT_SECS" = some "soon" := by decide
    have hread : Text.readNat? "soon".toList = none := by decide
    cases htext with
    | own _ h =>
      cases hsoon.symm.trans h.1
      rw [Text.readNat?_eq_some_iff.2 hn.1] at hread
      cases hread
    | plain hown _ => exact hown (by decide) "soon" ⟨hsoon, by decide⟩

end SettingsFile

end CronHeatMap
