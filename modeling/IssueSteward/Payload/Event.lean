import IssueSteward.Payload.Shape

/-!
# The events that payloads describe

The payload of an event is JSON text, of which only a few fields matter. Each kind of record has its
shape here, with the names of its fields, and a function that makes it of their values.
-/

namespace IssueSteward

/-- Something that happened to a pull request, or a request to look at one: `PullRequestEvent`. -/
structure PullRequestEvent where
  /-- What happened, if it is told. -/
  action : Option String
  /-- The pull request, if the payload carries one. -/
  pullRequest : Option PullRequest
deriving DecidableEq, Repr

/-- Something that happened to a comment on an issue: `IssueCommentEvent`. -/
structure IssueCommentEvent where
  /-- What happened, if it is told. -/
  action : Option String
  /-- The issue, if the payload carries one. -/
  issue : Option Issue
  /-- The comment, if the payload carries one. -/
  comment : Option Comment
deriving DecidableEq, Repr

namespace Payload

/-- The fields of an account, as `User` has them. -/
def userFields : Fields :=
  .cons "login" .required .text <| .cons "type" .defaulted .text .nil

/-- The fields of a comment, as `Comment` has them. -/
def commentFields : Fields :=
  .cons "body" .omissible (.optional .text) <|
  .cons "user" .omissible (.optional (.record "User" userFields)) .nil

/-- The fields of a pull request, as `PullRequest` has them. -/
def pullRequestFields : Fields :=
  .cons "number" .required .number <|
  .cons "body" .omissible (.optional .text) <|
  .cons "state" .defaulted .state <|
  .cons "user" .omissible (.optional (.record "User" userFields)) .nil

/-- The fields of an issue, as `Issue` has them. Whatever the field `pull_request` holds but `null`
tells that the issue is in truth a pull request. -/
def issueFields : Fields :=
  .cons "number" .required .number <|
  .cons "state" .defaulted .state <|
  .cons "user" .omissible (.optional (.record "User" userFields)) <|
  .cons "assignees" .defaulted (.list (.record "User" userFields)) <|
  .cons "pull_request" .omissible (.optional .anything) .nil

/-- The fields of an event of a pull request, as `PullRequestEvent` has them. -/
def pullRequestEventFields : Fields :=
  .cons "action" .defaulted (.optional .text) <|
  .cons "pull_request" .omissible (.optional (.record "PullRequest" pullRequestFields)) .nil

/-- The fields of an event of a comment, as `IssueCommentEvent` has them. -/
def issueCommentEventFields : Fields :=
  .cons "action" .defaulted (.optional .text) <|
  .cons "issue" .omissible (.optional (.record "Issue" issueFields)) <|
  .cons "comment" .omissible (.optional (.record "Comment" commentFields)) .nil

/-- An account from the values of its fields. -/
def toUser : userFields.Values → User
  | (login, kind, _) => { login := login, kind := kind }

/-- A comment from the values of its fields. -/
def toComment : commentFields.Values → Comment
  | (body, user, _) => { body := body, user := user.map toUser }

/-- A pull request from the values of its fields. -/
def toPullRequest : pullRequestFields.Values → PullRequest
  | (number, body, state, user, _) =>
    { number := number, body := body, state := state, user := user.map toUser }

/-- An issue from the values of its fields. -/
def toIssue : issueFields.Values → Issue
  | (number, state, user, assignees, pullRequest, _) =>
    { number := number
      state := state
      user := user.map toUser
      assignees := assignees.map toUser
      isPullRequest := pullRequest.isSome }

/-- An event of a pull request from the values of its fields. -/
def toPullRequestEvent : pullRequestEventFields.Values → PullRequestEvent
  | (action, pullRequest, _) =>
    { action := action, pullRequest := pullRequest.map toPullRequest }

/-- An event of a comment from the values of its fields. -/
def toIssueCommentEvent : issueCommentEventFields.Values → IssueCommentEvent
  | (action, issue, comment, _) =>
    { action := action, issue := issue.map toIssue, comment := comment.map toComment }

/-- A kind of payload: the record that it holds and what is made of it. -/
structure Format (α : Type) where
  /-- The name of the record. -/
  name : String
  /-- The fields of the record. -/
  fields : Fields
  /-- What the values of the fields make. -/
  build : fields.Values → α

/-- What a text of a kind of payload says. -/
def Format.decode {α : Type} (f : Format α) (text : String) : Except Fault α :=
  f.build <$> (Shape.record f.name f.fields).decode text.toList

/-- Payloads that are pull requests. -/
def pullRequest : Format PullRequest := ⟨"PullRequest", pullRequestFields, toPullRequest⟩

/-- Payloads that are events of pull requests. -/
def pullRequestEvent : Format PullRequestEvent :=
  ⟨"PullRequestEvent", pullRequestEventFields, toPullRequestEvent⟩

/-- Payloads that are events of comments. -/
def issueCommentEvent : Format IssueCommentEvent :=
  ⟨"IssueCommentEvent", issueCommentEventFields, toIssueCommentEvent⟩

/-- Why the file with a payload does not yield an event. -/
inductive LoadFault where
  /-- There is no file, or its bytes are no text. -/
  | unreadable
  /-- The text is refused. -/
  | refused (fault : Fault)
deriving DecidableEq, Repr

/-- The words for why the file at a path does not yield an event. -/
def LoadFault.message (path : String) : LoadFault → String
  | .unreadable => "Failed to read event payload: " ++ path
  | .refused _ => "Failed to parse event payload: " ++ path

/-- The event that the contents of a file describe, where there is a file: `event::load`. -/
def load {α : Type} (f : Format α) (file : Option ByteArray) : Except LoadFault α :=
  match file.bind String.fromUTF8? with
  | none => .error .unreadable
  | some text =>
    match f.decode text with
    | .ok event => .ok event
    | .error fault => .error (.refused fault)

end Payload

end IssueSteward
