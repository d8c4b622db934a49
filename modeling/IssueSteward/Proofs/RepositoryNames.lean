import IssueSteward.Settings
import Mathlib.Data.List.Basic

/-!
# Names of repositories

A text names a repository where, without the blanks at its ends, it is the full name of one whose
names can be told apart (`Repository.parse?_eq_some_iff`). Reading and writing then undo each other:
the full name of what is read is the text that was read without these blanks, and it is read again
as the same (`Repository.parse?_fullName`); and what is written is read back, also among blanks
(`Repository.parse?_padded`). `Settings.repository_read_back` says what follows for the settings of
a run.
-/

namespace IssueSteward

namespace Repository

/-- The names of a repository can be told apart in its full name. -/
structure Legible (r : Repository) : Prop where
  /-- The owner has a name. -/
  owner_ne : r.owner ≠ ""
  /-- The repository has a name of its own. -/
  repo_ne : r.repo ≠ ""
  /-- There is no slash in the owner's name. -/
  owner_slash : '/' ∉ r.owner.toList
  /-- There is no slash in the repository's own name. -/
  repo_slash : '/' ∉ r.repo.toList

/-- A full name is made of both names with a slash between them. -/
theorem toList_fullName (r : Repository) :
    r.fullName.toList = r.owner.toList ++ '/' :: r.repo.toList := by
  simp [fullName]

variable {text : String} {r : Repository}

/-- A text names a repository exactly where its two parts are the names and there is something in
each. -/
theorem parse?_eq_some_iff_parts :
    parse? text = some r ↔ (r.owner ≠ "" ∧ r.repo ≠ "") ∧
      Text.splitOnChar '/' (Text.trim text.toList) = [r.owner.toList, r.repo.toList] := by
  unfold parse?
  split
  · rename_i owner repo hparts
    rw [hparts]
    constructor
    · intro h
      split at h
      · cases h
      · rename_i hfull
        obtain rfl := Option.some.inj h
        simpa using hfull
    · rintro ⟨⟨howner, hrepo⟩, hnames⟩
      obtain ⟨rfl, rfl⟩ : owner = r.owner.toList ∧ repo = r.repo.toList := by simpa using hnames
      simp [howner, hrepo]
  · -- there are fewer or more parts than two
    rename_i hother
    exact ⟨nofun, fun h => absurd h.2 (hother _ _)⟩

/-- A text names a repository exactly where its names can be told apart and the full name is the
text without the blanks at its ends. -/
theorem parse?_eq_some_iff :
    parse? text = some r ↔ r.Legible ∧ Text.trim text.toList = r.fullName.toList := by
  rw [parse?_eq_some_iff_parts, Text.splitOnChar_eq_pair_iff, toList_fullName]
  constructor
  · rintro ⟨⟨howner, hrepo⟩, hname, howner_slash, hrepo_slash⟩
    exact ⟨⟨howner, hrepo, howner_slash, hrepo_slash⟩, hname⟩
  · rintro ⟨⟨howner, hrepo, howner_slash, hrepo_slash⟩, hname⟩
    exact ⟨⟨howner, hrepo⟩, hname, howner_slash, hrepo_slash⟩

/-- A text names some repository exactly where, without the blanks at its ends, it has one slash
with something on each side. -/
theorem exists_parse?_iff :
    (∃ r, parse? text = some r) ↔ (Text.trim text.toList).count '/' = 1 ∧
      ∃ owner repo, owner ≠ [] ∧ repo ≠ [] ∧ Text.trim text.toList = owner ++ '/' :: repo := by
  constructor
  · rintro ⟨r, h⟩
    obtain ⟨hr, hname⟩ := parse?_eq_some_iff.1 h
    rw [toList_fullName] at hname
    refine ⟨?_, r.owner.toList, r.repo.toList, ?_, ?_, hname⟩
    · rw [hname, List.count_append, List.count_cons_self,
        List.count_eq_zero_of_not_mem hr.owner_slash, List.count_eq_zero_of_not_mem hr.repo_slash]
    · simpa using hr.owner_ne
    · simpa using hr.repo_ne
  · rintro ⟨hcount, owner, repo, howner, hrepo, hname⟩
    -- the slash between the parts is the only one
    rw [hname, List.count_append, List.count_cons_self] at hcount
    have howner_slash : '/' ∉ owner := List.count_eq_zero.1 (by omega)
    have hrepo_slash : '/' ∉ repo := List.count_eq_zero.1 (by omega)
    refine ⟨⟨String.ofList owner, String.ofList repo⟩, parse?_eq_some_iff.2 ⟨⟨?_, ?_, ?_, ?_⟩, ?_⟩⟩
    · simpa using howner
    · simpa using hrepo
    · rwa [String.toList_ofList]
    · rwa [String.toList_ofList]
    · rw [hname, toList_fullName, String.toList_ofList, String.toList_ofList]

/-- The full name of the repository that a text names is the text without the blanks at its ends,
and names the same repository. -/
theorem parse?_fullName (h : parse? text = some r) :
    r.fullName = String.ofList (Text.trim text.toList) ∧ parse? r.fullName = some r := by
  obtain ⟨hr, hname⟩ := parse?_eq_some_iff.1 h
  refine ⟨?_, parse?_eq_some_iff.2 ⟨hr, ?_⟩⟩
  · rw [hname, String.ofList_toList]
  · rw [← hname, Text.trim_trim]

/-- The full name of a repository names it, also among blanks, where its names can be told apart and
it has no blanks of its own at its ends. -/
theorem parse?_padded (hr : r.Legible) {before after : String}
    (hfirst : r.owner.toList.head?.all (!Text.isBlank ·) = true)
    (hlast : r.repo.toList.getLast?.all (!Text.isBlank ·) = true)
    (hbefore : ∀ c ∈ before.toList, Text.isBlank c = true)
    (hafter : ∀ c ∈ after.toList, Text.isBlank c = true) :
    parse? (before ++ r.fullName ++ after) = some r := by
  refine parse?_eq_some_iff.2 ⟨hr, ?_⟩
  have howner : r.owner.toList ≠ [] := by simpa using hr.owner_ne
  have hrepo : r.repo.toList ≠ [] := by simpa using hr.repo_ne
  -- the full name begins as the owner's name does and ends as the repository's own
  have hbegin : r.fullName.toList.head? = r.owner.toList.head? := by
    rw [toList_fullName, List.head?_append_of_ne_nil _ howner]
  have hend : r.fullName.toList.getLast? = r.repo.toList.getLast? := by
    rw [toList_fullName, List.getLast?_append_of_ne_nil _ (List.cons_ne_nil _ _),
      List.getLast?_cons_of_ne_nil hrepo]
  exact Text.trim_eq_iff.2
    { around := ⟨before.toList, after.toList, hbefore, hafter, by simp only [String.toList_append]⟩
      first := hbegin ▸ hfirst
      last := hend ▸ hlast }

end Repository

namespace Settings

/-- A text that names a repository makes settings for it, whatever the other texts are. -/
theorem exists_ofTexts {text : String} {r : Repository} (h : Repository.parse? text = some r)
    (token apiUrl dryRun : Option String) :
    ∃ s, ofTexts text token apiUrl dryRun = .ok s ∧ s.repository = r :=
  ⟨⟨r, nonempty token, nonempty apiUrl, dryRun.any isOn⟩,
    ofTexts_eq_ok_iff.2 ⟨h, rfl, rfl, rfl⟩, rfl⟩

/-- What counts of the text for a repository is the text without the blanks at its ends. Settings are
made exactly where this has one slash with something on each side. It is then the full name of the
place where the services act, and makes settings for the same repository again, whatever the other
texts are. Where no settings are made, the message tells the text as it was given, with its blanks.
And every repository with names that can be told apart is read from its full name among blanks,
unless the full name has blanks of its own at its ends. -/
theorem repository_read_back (text : String) (token apiUrl dryRun : Option String) :
    ∃ name, Text.Trimmed text.toList name ∧
    ((∃ s, ofTexts text token apiUrl dryRun = .ok s) ↔ name.count '/' = 1 ∧
      ∃ owner repo, owner ≠ [] ∧ repo ≠ [] ∧ name = owner ++ '/' :: repo) ∧
    (∀ s, ofTexts text token apiUrl dryRun = .ok s →
      s.context.repository.fullName = String.ofList name ∧
      ∀ token' apiUrl' dryRun', ∃ s',
        ofTexts s.context.repository.fullName token' apiUrl' dryRun' = .ok s' ∧
          s'.repository = s.repository) ∧
    (∀ fault, ofTexts text token apiUrl dryRun = .error fault →
      fault.message = "Repository should be in format owner/repo, got '" ++ text ++ "'") ∧
    ∀ (r : Repository) (before after : String), r.Legible →
      r.owner.toList.head?.all (!Text.isBlank ·) = true →
      r.repo.toList.getLast?.all (!Text.isBlank ·) = true →
      (∀ c ∈ before.toList, Text.isBlank c = true) → (∀ c ∈ after.toList, Text.isBlank c = true) →
      ∃ s, ofTexts (before ++ (r.owner ++ "/" ++ r.repo) ++ after) token apiUrl dryRun = .ok s ∧
        s.repository = r := by
  refine ⟨Text.trim text.toList, Text.trimmed_trim _, ?_, fun s hs => ?_, fun fault hfault => ?_,
    fun r before after hr hfirst hlast hbefore hafter => ?_⟩
  · rw [← Repository.exists_parse?_iff]
    constructor
    · rintro ⟨s, hs⟩
      exact ⟨s.repository, (ofTexts_eq_ok_iff.1 hs).1⟩
    · rintro ⟨r, hparse⟩
      obtain ⟨s, hs, -⟩ := exists_ofTexts hparse token apiUrl dryRun
      exact ⟨s, hs⟩
  · obtain ⟨hfull, hagain⟩ := Repository.parse?_fullName (ofTexts_eq_ok_iff.1 hs).1
    exact ⟨hfull, exists_ofTexts hagain⟩
  · obtain ⟨-, rfl⟩ := ofTexts_eq_error_iff.1 hfault
    rfl
  · have hparse := Repository.parse?_padded hr hfirst hlast hbefore hafter
    exact exists_ofTexts hparse token apiUrl dryRun

/-- Blanks beside the slash belong to the names, but one at the end of a text does not stand for a
missing name. -/
theorem repository_read_back_blanks :
    (∃ s, ofTexts "\u3000octo / my repo\t" none none none = .ok s ∧
      s.repository = ⟨"octo ", " my repo"⟩ ∧
      ∃ s', ofTexts "octo / my repo" (some "t0ken") none none = .ok s' ∧
        s'.repository = s.repository) ∧
    ∃ fault, ofTexts "octo/ " none none none = .error fault ∧
      fault.message = "Repository should be in format owner/repo, got 'octo/ '" := by
  constructor
  · let r : Repository := ⟨"octo ", " my repo"⟩
    have hr : r.Legible := ⟨by decide, by decide, by decide, by decide⟩
    have hbefore : ∀ c ∈ "\u3000".toList, Text.isBlank c = true :=
      List.forall_mem_singleton.2 (by decide)
    have hafter : ∀ c ∈ "\t".toList, Text.isBlank c = true :=
      List.forall_mem_singleton.2 (by decide)
    have htext : "\u3000" ++ (r.owner ++ "/" ++ r.repo) ++ "\t" = "\u3000octo / my repo\t" := by
      decide
    obtain ⟨-, -, -, -, -, hpadded⟩ := repository_read_back "" none none none
    obtain ⟨s, hs, hrepository⟩ := hpadded r "\u3000" "\t" hr (by decide) (by decide) hbefore hafter
    rw [htext] at hs
    obtain ⟨_, -, -, hread, -⟩ := repository_read_back "\u3000octo / my repo\t" none none none
    obtain ⟨-, hagain⟩ := hread s hs
    have hfull : s.context.repository.fullName = "octo / my repo" :=
      (congrArg Repository.fullName hrepository).trans (by decide)
    rw [hfull] at hagain
    exact ⟨s, hs, hrepository, hagain (some "t0ken") none none⟩
  · obtain ⟨-, -, -, -, hmessage, -⟩ := repository_read_back "octo/ " none none none
    obtain ⟨fault, hfault⟩ : ∃ fault, ofTexts "octo/ " none none none = .error fault := ⟨_, rfl⟩
    exact ⟨fault, hfault, hmessage fault hfault⟩

end Settings

end IssueSteward
