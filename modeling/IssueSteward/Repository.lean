import IssueSteward.Text.Blank
import IssueSteward.Text.Split

/-!
# Repositories

A repository is named by its owner and its own name, with a slash between them.
-/

namespace IssueSteward

/-- A repository. -/
structure Repository where
  /-- The owner's name. -/
  owner : String
  /-- The repository's own name. -/
  repo : String
deriving DecidableEq, Repr

/-- The name of a repository with that of its owner: `full_name`. -/
def Repository.fullName (r : Repository) : String := r.owner ++ "/" ++ r.repo

/-- The repository that a text names, apart from blanks at its ends: exactly two parts with a slash
between them, neither of them empty. It is `get_owner_repo`. -/
def Repository.parse? (text : String) : Option Repository :=
  match Text.splitOnChar '/' (Text.trim text.toList) with
  | [owner, repo] =>
    if owner.isEmpty || repo.isEmpty then none
    else some ⟨String.ofList owner, String.ofList repo⟩
  | _ => none

/-- Where a service acts, and whether it only tells what it would do: `Context`. -/
structure Context where
  /-- The repository. -/
  repository : Repository
  /-- Whether nothing is to be changed. -/
  dryRun : Bool
deriving DecidableEq, Repr

end IssueSteward
