import IssueSteward.Decimal.Numeral
import IssueSteward.Rest.Client
import IssueSteward.Text.Blank
import IssueSteward.Text.Caseless

/-!
# Settings

What a run of a service is told from outside, as texts, and what is made of these: the repository,
the token, the address of the API, whether it is a dry run, and the number of a pull request. Which
settings texts make is said by `Settings.ofTexts_eq_ok_iff`, and where they make none by
`Settings.ofTexts_eq_error_iff`.
-/

namespace IssueSteward

open Decimal

/-- Whether the text of a switch turns it on: `parse_flag`. -/
def isOn (value : String) : Bool :=
  ["true", "1", "yes"].any fun word => Text.lower (Text.trim value.toList) == word.toList

/-- A text, unless it is empty. -/
def nonempty (value : Option String) : Option String := value.filter (· != "")

/-- What a run of a service is told from outside: `Config`. -/
structure Settings where
  /-- The repository. -/
  repository : Repository
  /-- The token, if there is one. -/
  token : Option String
  /-- The address of the API, where it is not the usual one. -/
  apiUrl : Option String
  /-- Whether nothing is to be changed. -/
  dryRun : Bool
deriving DecidableEq, Repr

/-- What is wrong with settings. -/
inductive SettingsFault where
  /-- A text names no repository. -/
  | malformedRepository (text : String)
  /-- A text is no address. -/
  | malformedUrl (url : String)
  /-- No client can be made. -/
  | unbuilt (mishap : Rest.Mishap)
deriving DecidableEq, Repr

/-- The words for what is wrong. -/
def SettingsFault.message : SettingsFault → String
  | .malformedRepository text =>
    "Repository should be in format owner/repo, got '" ++ text ++ "'"
  | .malformedUrl url => "Invalid API url: " ++ url
  | .unbuilt (.failure _) => "Failed to build GitHub client"
  | .unbuilt (.crash words) => words

/-- Whether what is wrong breaks the whole command down. -/
def SettingsFault.isCrash : SettingsFault → Bool
  | .unbuilt (.crash _) => true
  | _ => false

namespace Settings

/-- The settings that texts make: `Config::new`. -/
def ofTexts (repository : String) (token apiUrl dryRun : Option String) :
    Except SettingsFault Settings :=
  match Repository.parse? repository with
  | none => .error (.malformedRepository repository)
  | some r =>
    .ok { repository := r
          token := nonempty token
          apiUrl := nonempty apiUrl
          dryRun := dryRun.any isOn }

section

variable {repository : String} {token apiUrl dryRun : Option String}

/-- Texts make settings exactly where one of them names a repository, and then each of the others
decides about one of the other settings. -/
theorem ofTexts_eq_ok_iff {s : Settings} :
    ofTexts repository token apiUrl dryRun = .ok s ↔
      Repository.parse? repository = some s.repository ∧ s.token = nonempty token ∧
        s.apiUrl = nonempty apiUrl ∧ s.dryRun = dryRun.any isOn := by
  unfold ofTexts
  rcases Repository.parse? repository with _ | r
  · simp
  · constructor
    · rintro ⟨⟩
      exact ⟨rfl, rfl, rfl, rfl⟩
    · rintro ⟨⟨⟩, htoken, hurl, hdry⟩
      rw [← htoken, ← hurl, ← hdry]

/-- Texts make no settings exactly where the one that should names no repository. -/
theorem ofTexts_eq_error_iff {fault : SettingsFault} :
    ofTexts repository token apiUrl dryRun = .error fault ↔
      Repository.parse? repository = none ∧ fault = .malformedRepository repository := by
  unfold ofTexts
  rcases Repository.parse? repository with _ | r
  · exact ⟨fun h => ⟨rfl, (Except.error.inj h).symm⟩, fun h => congrArg _ h.2.symm⟩
  · simp

end

/-- Where the services act: `Context::from`. -/
def context (s : Settings) : Context := ⟨s.repository, s.dryRun⟩

/-- The client of the API: `Config::octocrab`. The library has to take the address for one, and then
to make a client. -/
def client (lib : Rest.Library) (s : Settings) : Except SettingsFault Rest.Client :=
  match s.apiUrl.filter (!lib.accepts ·) with
  | some url => .error (.malformedUrl url)
  | none =>
    let connection : Rest.Connection := ⟨s.apiUrl, s.token⟩
    match lib.build connection with
    | .error mishap => .error (.unbuilt mishap)
    | .ok () => .ok ⟨lib, connection⟩

/-- Settings make the client of a library exactly where it takes the address and can make one. -/
theorem client_eq_ok_iff {lib : Rest.Library} {s : Settings} {c : Rest.Client} :
    s.client lib = .ok c ↔
      s.apiUrl.all lib.accepts = true ∧ lib.build ⟨s.apiUrl, s.token⟩ = .ok () ∧
        c = ⟨lib, ⟨s.apiUrl, s.token⟩⟩ := by
  have haccepts : s.apiUrl.filter (!lib.accepts ·) = none ↔ s.apiUrl.all lib.accepts = true := by
    cases s.apiUrl <;> simp
  unfold client
  split
  · rename_i url hurl
    have hrefused : ¬ s.apiUrl.all lib.accepts = true := by
      rw [← haccepts, hurl]
      exact Option.some_ne_none url
    simp [hrefused]
  · rename_i hurl
    simp only [haccepts.1 hurl, true_and]
    cases lib.build ⟨s.apiUrl, s.token⟩ <;> simp [eq_comm]

end Settings

/-- What is wrong with the text of the number of a pull request. -/
structure NumberFault where
  /-- The text. -/
  text : String
  /-- Why it is no number. -/
  cause : NumeralError
deriving DecidableEq, Repr

/-- The words for which text is no number. -/
def NumberFault.message (f : NumberFault) : String := "PR_NUMBER is not a number: " ++ f.text

/-- The words for which text is no number, and why. -/
def NumberFault.fullMessage (f : NumberFault) : String := f.message ++ ": " ++ f.cause.text

/-- The number of a pull request that a text gives, perhaps after number signs: `parse_pr_number`. A
text of blanks gives none. -/
def pullNumber (value : Option String) : Except NumberFault (Option UInt64) :=
  let text := Text.trim (value.getD "").toList
  if text.isEmpty then .ok none
  else
    match readNumber (text.dropWhile (· == '#')) with
    | .ok n => .ok (some n)
    | .error cause => .error ⟨String.ofList text, cause⟩

end IssueSteward
